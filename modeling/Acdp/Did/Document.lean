import Acdp.Types.Records
import Acdp.Types.Identifiers

namespace Acdp.Types

def Text.afterLastChar (c : Char) (s : String) : Option String :=
  if c ∈ s.toList then some (String.ofList (s.toList.reverse.takeWhile (· ≠ c)).reverse) else none

def DidDocument.fragmentOf (id : String) : Option String := Text.afterLastChar '#' id

def DidDocument.absolutize (doc : DidDocument) (vmRef : String) : String :=
  match Text.stripPrefix "#" vmRef with
  | some frag => doc.id ++ "#" ++ frag
  | none => vmRef

def DidDocument.findByFragment (doc : DidDocument) (fragment : String) : Option VerificationMethod :=
  if Text.hasPrefix keylessFragmentPrefix fragment then none
  else doc.verificationMethods.find? (fun m => DidDocument.fragmentOf m.id == some fragment)

def AssertionMethodRef.target : AssertionMethodRef → String
  | .id url => url
  | .embedded m => m.id

def DidDocument.isAssertionMethod (doc : DidDocument) (vmId : String) : Bool :=
  doc.assertionMethod.any (fun r => doc.absolutize r.target == doc.absolutize vmId)

def jwkStr (jwk : Json) (key : String) : Option String := (jwk.get key).bind Json.asStr

def extractFromJwk (env : Env) (jwk : Json) : Except AcdpError (Vector UInt8 32) :=
  let kty := (jwkStr jwk "kty").getD ""
  let crv := (jwkStr jwk "crv").getD ""
  if kty ≠ "OKP" ∨ crv ≠ "Ed25519" then
    .error (.keyResolution s!"expected OKP/Ed25519 JWK, got kty={kty} crv={crv}")
  else match jwkStr jwk "x" with
    | none => .error (.keyResolution "JWK missing 'x' parameter")
    | some x =>
      match env.base64UrlDecode x with
      | .error e => .error (.keyResolution s!"JWK 'x' base64url decode: {e}")
      | .ok bytes =>
        match sizedBytes 32 bytes with
        | none => .error (.keyResolution "JWK 'x' is not 32 bytes (not Ed25519)")
        | some key => .ok key

def extractP256FromJwk (env : Env) (jwk : Json) : Except AcdpError (List UInt8) :=
  let kty := (jwkStr jwk "kty").getD ""
  let crv := (jwkStr jwk "crv").getD ""
  if kty ≠ "EC" ∨ crv ≠ "P-256" then
    .error (.keyResolution s!"expected EC/P-256 JWK, got kty={kty} crv={crv}")
  else match jwkStr jwk "x", jwkStr jwk "y" with
    | none, _ => .error (.keyResolution "JWK missing 'x'")
    | some _, none => .error (.keyResolution "JWK missing 'y'")
    | some x, some y =>
      match env.base64UrlDecode x with
      | .error e => .error (.keyResolution s!"JWK 'x' base64url: {e}")
      | .ok xs =>
        match env.base64UrlDecode y with
        | .error e => .error (.keyResolution s!"JWK 'y' base64url: {e}")
        | .ok ys =>
          if xs.length ≠ 32 ∨ ys.length ≠ 32 then
            .error (.keyResolution ("P-256 JWK x/y must be 32 bytes each, got x=" ++
              toString xs.length ++ " y=" ++ toString ys.length))
          else .ok (4 :: xs ++ ys)

def extractFromMultibase (env : Env) (mb : String) : Except AcdpError (Vector UInt8 32) :=
  match Text.stripPrefix "z" mb with
  | none => .error (.keyResolution "only 'z' (base58btc) multibase prefix is supported")
  | some rest =>
    match env.base58Decode rest with
    | .error e => .error (.keyResolution s!"base58 decode: {e}")
    | .ok (0xed :: 0x01 :: bytes) =>
      match sizedBytes 32 bytes with
      | none => .error (.keyResolution "Ed25519 key must be 32 bytes after multicodec prefix")
      | some key => .ok key
    | .ok _ => .error (.keyResolution
        "multibase key does not have Ed25519 multicodec prefix (0xed 0x01)")

namespace VerificationMethod

def ed25519PublicKeyBytes (env : Env) (m : VerificationMethod) : Except AcdpError (Vector UInt8 32) :=
  match m.publicKeyJwk, m.publicKeyMultibase with
  | some jwk, _ => extractFromJwk env jwk
  | none, some mb => extractFromMultibase env mb
  | none, none => .error (.keyResolution
      "verification method has neither publicKeyJwk nor publicKeyMultibase")

def ecdsaP256PublicKeySec1 (env : Env) (m : VerificationMethod) : Except AcdpError (List UInt8) :=
  match m.publicKeyJwk with
  | some jwk => extractP256FromJwk env jwk
  | none => .error (.keyResolution ("ecdsa-p256 verification method requires publicKeyJwk " ++
      "(publicKeyMultibase not yet supported for P-256)"))

def multicodecAlgorithm (env : Env) (mb : String) : Option String :=
  match (Text.stripPrefix "z" mb).map env.base58Decode with
  | some (.ok (0xed :: 0x01 :: _)) => some "ed25519"
  | some (.ok (0x80 :: 0x24 :: _)) => some "ecdsa-p256"
  | _ => none

def declaredAlgorithm (env : Env) (m : VerificationMethod) : Option String :=
  if m.methodType = "Ed25519VerificationKey2020" ∨ m.methodType = "Ed25519VerificationKey2018" then
    some "ed25519"
  else if m.methodType = "EcdsaSecp256r1VerificationKey2019" then some "ecdsa-p256"
  else if m.methodType = "JsonWebKey2020" then do
    let jwk ← m.publicKeyJwk
    let kty ← jwkStr jwk "kty"
    let crv ← jwkStr jwk "crv"
    if kty = "OKP" ∧ crv = "Ed25519" then some "ed25519"
    else if kty = "EC" ∧ crv = "P-256" then some "ecdsa-p256"
    else none
  else m.publicKeyMultibase.bind (multicodecAlgorithm env)

end VerificationMethod

def DidKeyMaterial.algorithm : DidKeyMaterial → String
  | .ed25519 _ => "ed25519"
  | .ecdsaP256 _ => "ecdsa-p256"

def decodeMultibaseKey (env : Env) (msi : String) : Except AcdpError DidKeyMaterial :=
  match Text.stripPrefix "z" msi with
  | none => .error (.keyResolution
      s!"did:key requires the 'z' (base58btc) multibase prefix, got '{msi}'")
  | some rest =>
    match env.base58Decode rest with
    | .error e => .error (.keyResolution s!"did:key base58 decode: {e}")
    | .ok (0xed :: 0x01 :: bytes) =>
      match sizedBytes 32 bytes with
      | some key => .ok (.ed25519 key)
      | none => .error (.keyResolution ("did:key ed25519 key must be 32 bytes after the multicodec " ++
          "prefix, got " ++ toString bytes.length))
    | .ok (0x80 :: 0x24 :: bytes) =>
      match sizedBytes 33 bytes with
      | none => .error (.keyResolution ("did:key p256 key must be a 33-byte SEC1-compressed point after " ++
          "the multicodec prefix, got " ++ toString bytes.length))
      | some key =>
        if key[0] = 0x02 ∨ key[0] = 0x03 then .ok (.ecdsaP256 key)
        else .error (.keyResolution
          "did:key p256 key must be SEC1-compressed (leading 0x02/0x03)")
    | .ok _ => .error (.keyResolution ("did:key multicodec prefix is neither ed25519-pub (0xed 0x01) " ++
        "nor p256-pub (0x80 0x24)"))

def resolveDidKey (env : Env) (did : String) : Except AcdpError DidKeyMaterial :=
  match Text.stripPrefix "did:key:" did with
  | none => .error (.keyResolution s!"not a did:key DID: {did}")
  | some msi => decodeMultibaseKey env msi

def resolveDidKeyUrl (env : Env) (keyId : String) : Except AcdpError DidKeyMaterial :=
  match Text.splitOnceChar '#' keyId with
  | none => .error (.keyResolution s!"key_id '{keyId}' has no '#fragment'")
  | some (did, fragment) =>
    match Text.stripPrefix "did:key:" did with
    | none => .error (.keyResolution s!"not a did:key DID URL: {keyId}")
    | some msi =>
      if fragment ≠ msi then
        .error (.keyResolution (s!"did:key fragment '#{fragment}' must equal the method-specific " ++
          s!"identifier '{msi}' (the did:key document's only verification method is the key itself)"))
      else decodeMultibaseKey env msi

end Acdp.Types
