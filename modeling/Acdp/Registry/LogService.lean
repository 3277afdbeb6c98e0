import Acdp.Crypto.MerkleCollision
import Acdp.Provenance.Hashing
import Acdp.Registry.LogInvariant
import Acdp.Types.LogProof
import Acdp.Types.ClosedRoundTrip

namespace Acdp.Types

open Acdp.Crypto
open Acdp.Crypto.Merkle (Hasher)

structure LogConsistencyProof where
  logId : String
  firstTreeSize : ℕ
  secondTreeSize : ℕ
  consistencyPath : List String
  logCheckpoint : LogCheckpoint
deriving DecidableEq, Repr

def LogConsistencyProof.verifyAgainstFirstRoot (env : Env) (p : LogConsistencyProof)
    (firstRootHash : String) : Except AcdpError Unit := do
  if p.logId ≠ p.logCheckpoint.logId then
    .error (.invalidLogProof ("consistency proof log_id '" ++ p.logId ++ "' ≠ log_checkpoint.log_id '" ++
      p.logCheckpoint.logId ++ "' (consistency proofs exist only within one log_id, RFC-ACDP-0012 §7.4)"))
  if p.secondTreeSize ≠ p.logCheckpoint.treeSize then
    .error (.invalidLogProof ("consistency proof second_tree_size " ++ toString p.secondTreeSize ++
      " ≠ log_checkpoint.tree_size " ++ toString p.logCheckpoint.treeSize ++ " (RFC-ACDP-0012 §8.2)"))
  let firstRoot ← decodeSha256Hex firstRootHash
  let secondRoot ← decodeSha256Hex p.logCheckpoint.rootHash
  let path ← p.consistencyPath.mapM decodeSha256Hex
  if ¬ Merkle.verifyConsistency (Hasher.ofSha256 env.sha256) p.firstTreeSize p.secondTreeSize path firstRoot
      secondRoot then
    .error (.invalidLogProof ("consistency_path does not prove the tree at size " ++
    toString p.firstTreeSize ++ " is a prefix of the tree at size " ++ toString p.secondTreeSize ++
    " — evidence of a logged-history " ++
    "rewrite; retain both checkpoints and this path (RFC-ACDP-0012 §9.2)"))

end Acdp.Types

namespace Acdp.Registry.Log

open Acdp.Types
open Acdp.Crypto (hexEncode hexByte)
open Acdp.Crypto.Merkle
open Acdp.Foundation
open Acdp.Foundation.AuditPath
open Acdp.Foundation.Entries
open Acdp.Foundation.Transition
open Acdp.Provenance (hexDigit_mem_hexEncode length_hexEncode)

def MerkleLog.consistencyProofResponse (env : LogEnv) (log : MerkleLog) (first : ℕ)
    (checkpoint : LogCheckpoint) : Except Fault LogConsistencyProof := do
  if checkpoint.logId ≠ log.logId then
    .error (.error (.schemaViolation (s!"checkpoint log_id '{checkpoint.logId}' is not this log " ++
      s!"('{log.logId}')")))
  else
    let path ← log.consistencyProof env first checkpoint.treeSize
    return {
      logId := log.logId
      firstTreeSize := first
      secondTreeSize := checkpoint.treeSize
      consistencyPath := path
      logCheckpoint := checkpoint }

section Wire

theorem isLowerHex_digitChar : ∀ n < 16, isLowerHex (Nat.digitChar n) = true ∧
    hexValue (Nat.digitChar n) = n ∧ (Nat.digitChar n).toNat < 128 := by
  decide

theorem hexPairs_flatMap (bytes : List UInt8) : hexPairs (bytes.flatMap hexByte) = bytes := by
  induction bytes with
  | nil => rfl
  | cons b bytes ih =>
    have hb := b.toNat_lt
    rw [List.flatMap_cons, hexByte, List.cons_append, List.cons_append, List.nil_append, hexPairs, ih,
      (isLowerHex_digitChar _ (by omega)).2.1, (isLowerHex_digitChar _ (by omega)).2.1,
      Nat.div_add_mod, UInt8.ofNat_toNat]

theorem decodeSha256Hex_encode (digest : Digest) : decodeSha256Hex (encodeSha256Hex digest) = .ok digest := by
  have hprefix : Text.stripPrefix "sha256:" (encodeSha256Hex digest) = some (hexEncode digest) :=
    (Text.stripPrefix_eq_some_iff _ _ _).mpr rfl
  have hdigits (c : Char) (hc : c ∈ (hexEncode digest).toList) : isLowerHex c = true ∧ c.toNat < 128 := by
    obtain ⟨n, hn, rfl⟩ := hexDigit_mem_hexEncode digest c hc
    exact ⟨(isLowerHex_digitChar n hn).1, (isLowerHex_digitChar n hn).2.2⟩
  have hsize : (hexEncode digest).utf8ByteSize = 64 := by
    have hbytes := congrArg List.length (Crypto.utf8_ofList_ascii _ (fun c hc => (hdigits c hc).2))
    rw [String.ofList_toList, List.length_map, length_hexEncode] at hbytes
    exact hbytes
  have hall : (hexEncode digest).toList.all isLowerHex = true :=
    List.all_eq_true.mpr (fun c hc => (hdigits c hc).1)
  have hpairs : hexPairs (hexEncode digest).toList = digest.toList := by
    rw [hexEncode, String.toList_ofList, hexPairs_flatMap]
  rw [decodeSha256Hex, hprefix]
  dsimp only
  rw [if_neg (by rw [hsize, hall]; simp), hpairs, sizedBytes, dif_pos (by simp)]
  exact congrArg Except.ok (Vector.toArray_inj.mp Array.toArray_toList)

theorem mapM_decode_encode (path : List Digest) : (path.map encodeSha256Hex).mapM decodeSha256Hex =
    .ok path := by
  induction path with
  | nil => rfl
  | cons d path ih =>
    rw [List.map_cons, List.mapM_cons, decodeSha256Hex_encode, ih]
    rfl

end Wire

section Checkpoint

variable (env : LogEnv) (log : MerkleLog) (signer : LogSigner)

theorem rootAt_ok (hinv : LogInvariant env log) (size : ℕ) (root : Digest)
    (h : log.rootAt env size = .ok root) : size ≤ log.leafHashes.length ∧ size < 2 ^ env.usizeBits ∧
      root = merkleTreeHash (Hasher.ofSha256 env.sha256) (log.leafHashes.take size) := by
  obtain ⟨n, hsize, hslice⟩ := bind_ok _ _ _ h
  obtain ⟨rfl, hle, hfits⟩ := checkedSize_ok env log size n hsize
  rw [← hinv.length_eq] at hle
  rw [sliceTo_of_le _ _ hle] at hslice
  exact ⟨hle, hfits, (Except.ok.inj hslice).symm⟩

theorem checkpointAt_ok (hinv : LogInvariant env log) (size : ℕ) (timestamp : DateTime) (c : LogCheckpoint)
    (h : log.checkpointAt env signer size timestamp = .ok c) :
    c.logId = log.logId ∧ c.treeSize = size ∧ size ≤ log.leafHashes.length ∧ size < 2 ^ env.usizeBits ∧
      c.rootHash = encodeSha256Hex
        (merkleTreeHash (Hasher.ofSha256 env.sha256) (log.leafHashes.take size)) := by
  obtain ⟨root, hroot, h⟩ := bind_ok _ _ _ h
  obtain ⟨hle, hfits, rfl⟩ := rootAt_ok env log hinv size root hroot
  cases hmint : signer.mintLogCheckpoint log.logId size
      (encodeSha256Hex (merkleTreeHash (Hasher.ofSha256 env.sha256) (log.leafHashes.take size)))
      timestamp with
  | error e =>
    rw [hmint] at h
    cases h
  | ok minted =>
    rw [hmint] at h
    obtain rfl := Except.ok.inj h
    obtain ⟨⟨did, inst⟩, -, hmint⟩ := bind_ok _ _ _ hmint
    dsimp only at hmint
    split_ifs at hmint
    obtain ⟨digest, -, hmint⟩ := bind_ok _ _ _ hmint
    obtain ⟨⟨algorithm, value⟩, -, hmint⟩ := bind_ok _ _ _ hmint
    obtain rfl := Except.ok.inj hmint
    exact ⟨rfl, rfl, hle, hfits, rfl⟩

end Checkpoint

theorem LogExtends.trans {a b c : MerkleLog} (hab : LogExtends a b) (hbc : LogExtends b c) : LogExtends a c :=
  ⟨hbc.logId.trans hab.logId, hab.leaves.trans hbc.leaves, hab.leafHashes.trans hbc.leafHashes⟩

theorem run_extends (env : LogEnv) (leaves : List LogLeaf) (log : MerkleLog) :
    LogExtends log (log.run env leaves) :=
  runState_invariant (MerkleLog.append env) (fun _ => True) (LogExtends log)
    (fun leaf later _ h => h.trans (LogExtends.append env leaf later)) leaves log (fun _ _ => trivial)
    ⟨rfl, List.prefix_rfl, List.prefix_rfl⟩

theorem run_invariant (env : LogEnv) (leaves : List LogLeaf) (log : MerkleLog) (h : LogInvariant env log) :
    LogInvariant env (log.run env leaves) :=
  runState_invariant (MerkleLog.append env) (fun _ => True) (LogInvariant env)
    (fun leaf log _ h => h.append env leaf log) leaves log (fun _ _ => trivial) h

theorem LogInvariant.bytes (env : LogEnv) (log : MerkleLog) (h : LogInvariant env log) :
    ∃ bytes, List.Forall₂ (fun leaf b => LogLeaf.canonicalBytes env leaf = .ok b) log.leaves bytes ∧
      log.leafHashes = bytes.map (leafHash env.sha256) := by
  have hhashes := h.hashes
  generalize log.leaves = leaves, log.leafHashes = hashes at hhashes ⊢
  induction hhashes with
  | nil => exact ⟨[], .nil, rfl⟩
  | cons hleaf _ ih =>
    obtain ⟨bytes, hbytes, rfl⟩ := ih
    obtain ⟨b, hb, hhash⟩ := bind_ok _ _ _ hleaf
    exact ⟨b :: bytes, .cons hb hbytes, by rw [List.map_cons, Except.ok.inj hhash]⟩

theorem LogInvariant.leafHash_at (env : LogEnv) (log : MerkleLog) (h : LogInvariant env log) (index : ℕ)
    (leaf : LogLeaf) (hleaf : log.leaves[index]? = some leaf) :
    ∃ hash, log.leafHashes[index]? = some hash ∧ leaf.leafHash env = .ok hash := by
  obtain ⟨hlt, rfl⟩ := List.getElem?_eq_some_iff.mp hleaf
  have hlt' : index < log.leafHashes.length := by rwa [h.length_eq]
  exact ⟨_, List.getElem?_eq_getElem hlt', h.hashes.get hlt hlt'⟩

theorem LogExtends.take_leafHashes {log late : MerkleLog} (hext : LogExtends log late) (size : ℕ)
    (hle : size ≤ log.leafHashes.length) : late.leafHashes.take size = log.leafHashes.take size := by
  obtain ⟨added, hadded⟩ := hext.leafHashes
  rw [← hadded, List.take_append_of_le_length hle]

section Served

variable (env : Env)

/-- A log at the size and with the root that a checkpoint of it states. -/
structure Checkpoints (log : MerkleLog) (c : LogCheckpoint) : Prop where
  logId : c.logId = log.logId
  le : c.treeSize ≤ log.leafHashes.length
  fits : c.treeSize < 2 ^ env.usizeBits
  root : c.rootHash =
    encodeSha256Hex (merkleTreeHash (Hasher.ofSha256 env.sha256) (log.leafHashes.take c.treeSize))

theorem Checkpoints.of_checkpointAt (log : MerkleLog) (hinv : LogInvariant env.toLogEnv log)
    (signer : LogSigner) (size : ℕ) (timestamp : DateTime) (c : LogCheckpoint)
    (h : log.checkpointAt env.toLogEnv signer size timestamp = .ok c) : Checkpoints env log c := by
  obtain ⟨hid, rfl, hle, hfits, hroot⟩ := checkpointAt_ok env.toLogEnv log signer hinv size timestamp c h
  exact ⟨hid, hle, hfits, hroot⟩

theorem Checkpoints.later {log late : MerkleLog} {c : LogCheckpoint} (h : Checkpoints env log c)
    (hext : LogExtends log late) : Checkpoints env late c :=
  ⟨h.logId.trans hext.logId.symm, h.le.trans hext.leafHashes.length_le, h.fits,
    by rw [h.root, hext.take_leafHashes _ h.le]⟩

theorem Checkpoints.length_take {log : MerkleLog} {c : LogCheckpoint} (h : Checkpoints env log c) :
    (log.leafHashes.take c.treeSize).length = c.treeSize := by
  rw [List.length_take, Nat.min_eq_left h.le]

theorem verifyReconstructedLeaf_of_fold (p : LogInclusion) (leaf : LogLeaf) (path : List Digest)
    (hash root : Digest) (hleaf : leaf.leafHash env.toLogEnv = .ok hash)
    (hlogId : p.logId = p.logCheckpoint.logId)
    (hsize : p.treeSize = p.logCheckpoint.treeSize) (hindex : p.leafIndex < p.treeSize)
    (hpath : p.inclusionPath = path.map encodeSha256Hex)
    (hroot : p.logCheckpoint.rootHash = encodeSha256Hex root)
    (hfold : verifyInclusion (Hasher.ofSha256 env.sha256) hash p.leafIndex p.treeSize path root = true) :
    p.verifyReconstructedLeaf env leaf = .ok () := by
  rw [LogInclusion.verifyReconstructedLeaf, hleaf]
  change LogInclusion.verifyLeafHash env p hash = _
  rw [LogInclusion.verifyLeafHash, LogInclusion.crossCheckBinding]
  rw [if_neg (not_not.mpr hlogId), if_neg (not_not.mpr hsize), if_neg (by omega), hpath, hroot]
  simp only [bind, Except.bind, mapM_decode_encode, decodeSha256Hex_encode, hfold, not_true, if_false]
  rfl

theorem verifyAgainstFirstRoot_of_fold (p : LogConsistencyProof) (path : List Digest)
    (firstRoot root : Digest) (hlogId : p.logId = p.logCheckpoint.logId)
    (hsize : p.secondTreeSize = p.logCheckpoint.treeSize)
    (hpath : p.consistencyPath = path.map encodeSha256Hex)
    (hroot : p.logCheckpoint.rootHash = encodeSha256Hex root)
    (hfold : verifyConsistency (Hasher.ofSha256 env.sha256) p.firstTreeSize p.secondTreeSize path
      firstRoot root = true) :
    p.verifyAgainstFirstRoot env (encodeSha256Hex firstRoot) = .ok () := by
  rw [LogConsistencyProof.verifyAgainstFirstRoot, hpath, hroot]
  simp only [hlogId, hsize, ne_eq, not_true_eq_false, if_false, decodeSha256Hex_encode, bind, Except.bind,
    mapM_decode_encode]
  rw [hsize] at hfold
  rw [hfold]
  rfl

theorem inclusionProof_served (log : MerkleLog) (hinv : LogInvariant env.toLogEnv log) (c : LogCheckpoint)
    (hc : Checkpoints env log c) (index : ℕ) (hindex : index < c.treeSize) (leaf : LogLeaf)
    (hleaf : log.leaves[index]? = some leaf) :
    ∃ p, log.inclusionProof env.toLogEnv index c = .ok p ∧ p.verifyReconstructedLeaf env leaf = .ok () := by
  obtain ⟨hash, hhash, hleafHash⟩ := hinv.leafHash_at env.toLogEnv log index leaf hleaf
  obtain ⟨q, hq, hverify⟩ :=
    verifyInclusion_served (Hasher.ofSha256 env.sha256) (log.leafHashes.take c.treeSize)
      index hash (by rw [List.getElem?_take_of_lt hindex, hhash])
  rw [hc.length_take env] at hverify
  have hsize := checkedSize_of_le env.toLogEnv log c.treeSize (hinv.length_eq ▸ hc.le) hc.fits
  have hfilter : (usizeTryFrom env.toLogEnv index).filter (· < c.treeSize) = some index := by
    rw [usizeTryFrom, if_pos (hindex.trans hc.fits), Option.filter_some, if_pos (by simpa using hindex)]
  refine ⟨⟨log.logId, index, c.treeSize, q.map encodeSha256Hex, c, none⟩, ?_, ?_⟩
  · rw [MerkleLog.inclusionProof, if_neg (not_not.mpr hc.logId), hsize]
    simp only [bind, Except.bind, hfilter, sliceTo_of_le _ _ hc.le, hq, expectSome]
    rfl
  · exact verifyReconstructedLeaf_of_fold env _ leaf q hash _ hleafHash hc.logId.symm rfl hindex rfl
      hc.root hverify

theorem consistencyProof_served (log : MerkleLog) (hinv : LogInvariant env.toLogEnv log) (c : LogCheckpoint)
    (hc : Checkpoints env log c) (first : ℕ) (h0 : 0 < first) (hle : first ≤ c.treeSize) :
    ∃ p, log.consistencyProofResponse env.toLogEnv first c = .ok p ∧ p.verifyAgainstFirstRoot env
      (encodeSha256Hex (merkleTreeHash (Hasher.ofSha256 env.sha256) (log.leafHashes.take first))) =
        .ok () := by
  obtain ⟨q, hq, -, hverify⟩ := consistencyProof_complete (Hasher.ofSha256 env.sha256)
    (log.leafHashes.take c.treeSize) first h0 (by rwa [hc.length_take env])
  rw [hc.length_take env, List.take_take, Nat.min_eq_left hle] at hverify
  have hsize := checkedSize_of_le env.toLogEnv log c.treeSize (hinv.length_eq ▸ hc.le) hc.fits
  have hfirst : usizeTryFrom env.toLogEnv first = some first := if_pos (lt_of_le_of_lt hle hc.fits)
  have hproof : log.consistencyProof env.toLogEnv first c.treeSize = .ok (q.map encodeSha256Hex) := by
    rw [MerkleLog.consistencyProof, hsize]
    simp only [bind, Except.bind]
    rw [if_neg (by omega)]
    simp only [hfirst, sliceTo_of_le _ _ hc.le, hq, expectSome]
    rfl
  refine ⟨⟨log.logId, first, c.treeSize, q.map encodeSha256Hex, c⟩, ?_, ?_⟩
  · rw [MerkleLog.consistencyProofResponse, if_neg (not_not.mpr hc.logId), hproof]
    rfl
  · exact verifyAgainstFirstRoot_of_fold env _ q _ _ hc.logId.symm rfl rfl hc.root hverify

end Served

section Bound

variable (env : Env)

def MerkleLog.leafBytes (log : MerkleLog) : List (List UInt8) :=
  log.leaves.filterMap (fun leaf => (leaf.canonicalBytes env.toLogEnv).toOption)

def MerkleLog.rootInputs (log : MerkleLog) (size : ℕ) : List (List UInt8) :=
  treeInputs env.sha256 ((log.leafBytes env).take size)

def inclusionInputs (bytes : List UInt8) (index size : ℕ) (path : List Digest) : List (List UInt8) :=
  (leafHashPrefix :: bytes) ::
    (inclusionNodes (Hasher.ofSha256 env.sha256) (leafHash env.sha256 bytes) index size path).map nodeInput

def consistencyInputs (first second : ℕ) (path : List Digest) (root : Digest) : List (List UInt8) :=
  (consistencyNodes (Hasher.ofSha256 env.sha256) first second path root).map nodeInput

theorem leafBytes_spec (log : MerkleLog) (hinv : LogInvariant env.toLogEnv log) :
    List.Forall₂ (fun leaf b => LogLeaf.canonicalBytes env.toLogEnv leaf = .ok b) log.leaves
      (log.leafBytes env) ∧ log.leafHashes = (log.leafBytes env).map (leafHash env.sha256) := by
  obtain ⟨bytes, hbytes, hhashes⟩ := hinv.bytes env.toLogEnv log
  have heq : log.leafBytes env = bytes := by
    rw [MerkleLog.leafBytes]
    generalize log.leaves = leaves at hbytes ⊢
    clear hhashes hinv
    induction hbytes with
    | nil => rfl
    | cons hleaf _ ih =>
      rw [List.filterMap_cons, hleaf, ih]
      rfl
  rw [heq]
  exact ⟨hbytes, hhashes⟩

theorem rootAt_bytes (log : MerkleLog) (hinv : LogInvariant env.toLogEnv log) (size : ℕ) :
    merkleTreeHash (Hasher.ofSha256 env.sha256) (log.leafHashes.take size) =
      merkleTreeHash (Hasher.ofSha256 env.sha256)
        (((log.leafBytes env).take size).map (leafHash env.sha256)) := by
  rw [(leafBytes_spec env log hinv).2, List.map_take]

theorem accepted_inclusion_binds (log : MerkleLog) (hinv : LogInvariant env.toLogEnv log) (c : LogCheckpoint)
    (hc : Checkpoints env log c) (p : LogInclusion) (hp : p.logCheckpoint = c) (leaf : LogLeaf)
    (h : p.verifyReconstructedLeaf env leaf = .ok ()) :
    ∃ bytes stored storedBytes, leaf.canonicalBytes env.toLogEnv = .ok bytes ∧
      log.leaves[p.leafIndex]? = some stored ∧ stored.canonicalBytes env.toLogEnv = .ok storedBytes ∧
      (bytes = storedBytes ∨ ∃ path q, p.inclusionPath.mapM decodeSha256Hex = .ok path ∧
        inclusionPath (Hasher.ofSha256 env.sha256) p.leafIndex (log.leafHashes.take c.treeSize) = some q ∧
        Collision env.sha256 (inclusionInputs env bytes p.leafIndex c.treeSize path)
          (inclusionInputs env storedBytes p.leafIndex c.treeSize q)) := by
  subst hp
  obtain ⟨hash, hhash, h⟩ := bind_ok _ _ _ h
  obtain ⟨bytes, hbytes, hhash⟩ := bind_ok _ _ _ hhash
  obtain rfl := Except.ok.inj hhash
  obtain ⟨⟨⟩, hbind, h⟩ := bind_ok _ _ _ h
  obtain ⟨path, hpath, h⟩ := bind_ok _ _ _ h
  obtain ⟨root, hroot, h⟩ := bind_ok _ _ _ h
  rw [LogInclusion.crossCheckBinding] at hbind
  split_ifs at hbind with hsize hlogId hindex
  have hlt : p.leafIndex < p.logCheckpoint.treeSize := by omega
  rw [hc.root, decodeSha256Hex_encode] at hroot
  obtain rfl := Except.ok.inj hroot
  split_ifs at h with hverify
  obtain ⟨hspec, hhashes⟩ := leafBytes_spec env log hinv
  have hstored : p.leafIndex < log.leaves.length := by
    rw [← hinv.length_eq]
    exact lt_of_lt_of_le hlt hc.le
  have hstored' : p.leafIndex < (log.leafBytes env).length := by rwa [← hspec.length_eq]
  refine ⟨bytes, _, _, hbytes, List.getElem?_eq_getElem hstored, hspec.get hstored hstored', ?_⟩
  have hd : (log.leafHashes.take p.logCheckpoint.treeSize)[p.leafIndex]? =
      some (leafHash env.sha256 ((log.leafBytes env).get ⟨_, hstored'⟩)) := by
    rw [List.getElem?_take_of_lt hlt, hhashes, List.getElem?_map, List.getElem?_eq_getElem hstored']
    rfl
  rw [not_not.mp hsize] at hverify
  obtain ⟨q, hq, ⟨hleaf, -⟩ | hcol⟩ := verifyInclusion_binds (Hasher.ofSha256 env.sha256) _ p.leafIndex _ hd
    _ path (by rwa [hc.length_take env])
  · have hmem (b : List UInt8) (q : List Digest) :
        leafHashPrefix :: b ∈ inclusionInputs env b p.leafIndex p.logCheckpoint.treeSize q :=
          List.mem_cons_self
    rcases eq_or_collision (f := env.sha256) hleaf (hmem bytes path) (hmem _ q) with heq | hcol
    · exact .inl (List.cons.inj heq).2
    · exact .inr ⟨path, q, hpath, hq, hcol⟩
  · rw [hc.length_take env] at hcol
    exact .inr ⟨path, q, hpath, hq, (collision_nodeInput env.sha256 hcol).mono (List.subset_cons_self ..)
      (List.subset_cons_self ..)⟩

/-- What an accepted consistency proof lets one conclude: the leaves under the first root are, in order,
the first leaves of the second log, or SHA-256 collides among the inputs of the two roots or of the two
proofs. -/
def PrefixOrCollision (first second : MerkleLog) (retained : LogCheckpoint)
    (p : LogConsistencyProof) : Prop :=
  (retained.treeSize ≤ p.logCheckpoint.treeSize ∧
    (first.leafBytes env).take retained.treeSize <+: second.leafBytes env) ∨
  Collision env.sha256 (first.rootInputs env retained.treeSize) (second.rootInputs env p.firstTreeSize) ∨
  ∃ path q, p.consistencyPath.mapM decodeSha256Hex = .ok path ∧
    consistencyProof (Hasher.ofSha256 env.sha256) p.firstTreeSize
      (second.leafHashes.take p.logCheckpoint.treeSize) = some q ∧
    Collision env.sha256
      (consistencyInputs env p.firstTreeSize p.logCheckpoint.treeSize path
        (merkleTreeHash (Hasher.ofSha256 env.sha256) (first.leafHashes.take retained.treeSize)))
      (consistencyInputs env p.firstTreeSize p.logCheckpoint.treeSize q
        (merkleTreeHash (Hasher.ofSha256 env.sha256) (second.leafHashes.take p.firstTreeSize)))

theorem accepted_consistency_binds (first second : MerkleLog) (hfirst : LogInvariant env.toLogEnv first)
    (hsecond : LogInvariant env.toLogEnv second) (retained : LogCheckpoint)
    (hr : Checkpoints env first retained)
    (p : LogConsistencyProof) (hc : Checkpoints env second p.logCheckpoint)
    (h : p.verifyAgainstFirstRoot env retained.rootHash = .ok ()) :
    PrefixOrCollision env first second retained p := by
  have hle := hr.le
  rw [LogConsistencyProof.verifyAgainstFirstRoot, guard_ok_iff] at h
  obtain ⟨-, h⟩ := h
  rw [guard_ok_iff] at h
  obtain ⟨hsize, h⟩ := h
  obtain ⟨firstRoot, hfirstRoot, h⟩ := bind_ok _ _ _ h
  obtain ⟨secondRoot, hsecondRoot, h⟩ := bind_ok _ _ _ h
  obtain ⟨path, hpath, h⟩ := bind_ok _ _ _ h
  rw [hr.root, decodeSha256Hex_encode] at hfirstRoot
  obtain rfl := Except.ok.inj hfirstRoot
  rw [hc.root, decodeSha256Hex_encode] at hsecondRoot
  obtain rfl := Except.ok.inj hsecondRoot
  split_ifs at h with hverify
  rw [not_not.mp hsize] at hverify
  obtain ⟨hk, hbind⟩ := verifyConsistency_binds (Hasher.ofSha256 env.sha256)
    (second.leafHashes.take p.logCheckpoint.treeSize) p.firstTreeSize path _ (by rwa [hc.length_take env])
  rw [hc.length_take env] at hk hbind
  rw [List.take_take, Nat.min_eq_left hk] at hbind
  rcases hbind with hroots | ⟨q, hq, hcol⟩
  · rw [rootAt_bytes env first hfirst, rootAt_bytes env second hsecond] at hroots
    rcases merkleTreeHash_binds env.sha256 _ _ hroots with heq | hcol
    · refine .inl ⟨?_, ?_⟩
      · have hlengths := congrArg List.length heq
        rw [List.length_take, List.length_take, ← (leafBytes_spec env first hfirst).1.length_eq,
          ← (leafBytes_spec env second hsecond).1.length_eq, ← hfirst.length_eq,
          ← hsecond.length_eq] at hlengths
        have := hc.le
        omega
      · rw [heq]
        exact List.take_prefix _ _
    · exact .inr (.inl hcol)
  · exact .inr (.inr ⟨path, q, hpath, hq, collision_nodeInput env.sha256 hcol⟩)

end Bound

section Runs

variable (env : Env)

theorem run_take_extends (leaves : List LogLeaf) (empty : MerkleLog) (n : ℕ) :
    LogExtends (empty.run env.toLogEnv (leaves.take n)) (empty.run env.toLogEnv leaves) := by
  have hsplit : empty.run env.toLogEnv leaves =
      (empty.run env.toLogEnv (leaves.take n)).run env.toLogEnv (leaves.drop n) := by
    rw [MerkleLog.run, MerkleLog.run, MerkleLog.run, ← runState_append, List.take_append_drop]
  rw [hsplit]
  exact run_extends env.toLogEnv _ _

theorem Checkpoints.of_run (logId : String) (empty : MerkleLog) (hnew : MerkleLog.new logId = .ok empty)
    (leaves : List LogLeaf) (n : ℕ) (signer : LogSigner) (size : ℕ) (timestamp : DateTime) (c : LogCheckpoint)
    (h : (empty.run env.toLogEnv (leaves.take n)).checkpointAt env.toLogEnv signer size timestamp = .ok c) :
    Checkpoints env (empty.run env.toLogEnv leaves) c ∧ c.treeSize = size := by
  have hinv := run_invariant env.toLogEnv (leaves.take n) empty
    (LogInvariant.new env.toLogEnv logId empty hnew)
  exact ⟨(Checkpoints.of_checkpointAt env _ hinv signer size timestamp c h).later env
    (run_take_extends env leaves empty n),
    (checkpointAt_ok env.toLogEnv _ signer hinv size timestamp c h).2.1⟩

/-- Whatever a log has appended since two of its checkpoints were minted, it serves an inclusion proof for
every leaf under the one and a consistency proof from the other, and the client accepts them. -/
theorem log_serves_minted_checkpoints (logId : String) (empty : MerkleLog)
    (hnew : MerkleLog.new logId = .ok empty) (leaves : List LogLeaf) (i j : ℕ)
    (retainedBy mintedBy : LogSigner) (first size : ℕ) (t t' : DateTime)
    (retained c : LogCheckpoint)
    (hretained : (empty.run env.toLogEnv (leaves.take i)).checkpointAt env.toLogEnv retainedBy
      first t = .ok retained)
    (hc : (empty.run env.toLogEnv (leaves.take j)).checkpointAt env.toLogEnv mintedBy size t' = .ok c) :
    (∀ index < size, ∃ leaf p, (empty.run env.toLogEnv leaves).leaves[index]? = some leaf ∧
      (empty.run env.toLogEnv leaves).inclusionProof env.toLogEnv index c = .ok p ∧
      p.verifyReconstructedLeaf env leaf = .ok ()) ∧
    (0 < first → first ≤ size → ∃ p,
      (empty.run env.toLogEnv leaves).consistencyProofResponse env.toLogEnv first c = .ok p ∧
      p.verifyAgainstFirstRoot env retained.rootHash = .ok ()) := by
  have hinv := run_invariant env.toLogEnv leaves empty (LogInvariant.new env.toLogEnv logId empty hnew)
  obtain ⟨hold, rfl⟩ := Checkpoints.of_run env logId empty hnew leaves i retainedBy first t retained hretained
  obtain ⟨hcp, rfl⟩ := Checkpoints.of_run env logId empty hnew leaves j mintedBy size t' c hc
  constructor
  · intro index hindex
    have hlt : index < (empty.run env.toLogEnv leaves).leaves.length := by
      rw [← hinv.length_eq]
      exact lt_of_lt_of_le hindex hcp.le
    have hleaf := List.getElem?_eq_getElem hlt
    obtain ⟨p, hp, hverify⟩ := inclusionProof_served env _ hinv c hcp index hindex _ hleaf
    exact ⟨_, p, hleaf, hp, hverify⟩
  · intro h0 hle
    rw [hold.root]
    exact consistencyProof_served env _ hinv c hcp _ h0 hle

/-- A client can be made to accept under a checkpoint no other leaf than the one the log holds at that
index. -/
theorem log_accepts_only_stored_leaves (logId : String) (empty : MerkleLog)
    (hnew : MerkleLog.new logId = .ok empty) (leaves : List LogLeaf) (j : ℕ) (signer : LogSigner) (size : ℕ)
    (t : DateTime) (c : LogCheckpoint)
    (hc : (empty.run env.toLogEnv (leaves.take j)).checkpointAt env.toLogEnv signer size t = .ok c)
    (p : LogInclusion) (hp : p.logCheckpoint = c) (leaf : LogLeaf)
    (h : p.verifyReconstructedLeaf env leaf = .ok ()) :
    ∃ bytes stored storedBytes, leaf.canonicalBytes env.toLogEnv = .ok bytes ∧
      (empty.run env.toLogEnv leaves).leaves[p.leafIndex]? = some stored ∧
      stored.canonicalBytes env.toLogEnv = .ok storedBytes ∧
      (bytes = storedBytes ∨ ∃ path q, p.inclusionPath.mapM decodeSha256Hex = .ok path ∧
        inclusionPath (Hasher.ofSha256 env.sha256) p.leafIndex
          ((empty.run env.toLogEnv leaves).leafHashes.take size) = some q ∧
        Collision env.sha256 (inclusionInputs env bytes p.leafIndex size path)
          (inclusionInputs env storedBytes p.leafIndex size q)) := by
  have hinv := run_invariant env.toLogEnv leaves empty (LogInvariant.new env.toLogEnv logId empty hnew)
  obtain ⟨hcp, rfl⟩ := Checkpoints.of_run env logId empty hnew leaves j signer size t c hc
  exact accepted_inclusion_binds env _ hinv c hcp p hp leaf h

/-- Two logs cannot show one client two histories: when it accepts a consistency proof from the checkpoint
of one to that of the other, the first history is a prefix of the second. -/
theorem log_histories_agree (firstId secondId : String) (firstEmpty secondEmpty : MerkleLog)
    (hfirst : MerkleLog.new firstId = .ok firstEmpty) (hsecond : MerkleLog.new secondId = .ok secondEmpty)
    (firstLeaves secondLeaves : List LogLeaf) (i j : ℕ) (retainedBy mintedBy : LogSigner) (first size : ℕ)
    (t t' : DateTime) (retained c : LogCheckpoint)
    (hretained : (firstEmpty.run env.toLogEnv (firstLeaves.take i)).checkpointAt env.toLogEnv
      retainedBy first t = .ok retained)
    (hc : (secondEmpty.run env.toLogEnv (secondLeaves.take j)).checkpointAt env.toLogEnv mintedBy
      size t' = .ok c)
    (p : LogConsistencyProof) (hp : p.logCheckpoint = c)
    (h : p.verifyAgainstFirstRoot env retained.rootHash = .ok ()) :
    PrefixOrCollision env (firstEmpty.run env.toLogEnv firstLeaves)
      (secondEmpty.run env.toLogEnv secondLeaves) retained p := by
  subst hp
  exact accepted_consistency_binds env _ _
    (run_invariant env.toLogEnv firstLeaves firstEmpty
    (LogInvariant.new env.toLogEnv firstId firstEmpty hfirst))
    (run_invariant env.toLogEnv secondLeaves secondEmpty
    (LogInvariant.new env.toLogEnv secondId secondEmpty hsecond))
    retained (Checkpoints.of_run env firstId firstEmpty hfirst firstLeaves i retainedBy first t
    retained hretained).1
    p (Checkpoints.of_run env secondId secondEmpty hsecond secondLeaves j mintedBy size t' _ hc).1 h

end Runs

section Sample

def fourLeafRun : List LogLeaf := threeLeafRun ++ [loggedLeaf uuidD]

def sampleSigner : LogSigner where
  registryDid := "did:web:registry.example.com"
  keyId := "did:web:registry.example.com#key-1"
  algorithm := "ed25519"
  sign _ := .ok ("ed25519", "AA==")

def sampleCheckpoint (treeSize : ℕ) (root : Digest) : LogCheckpoint where
  checkpointVersion := logCheckpointVersion
  logId := "did:web:registry.example.com/log/1"
  treeSize := treeSize
  rootHash := encodeSha256Hex root
  timestamp := stamp
  signature := ⟨"ed25519", "did:web:registry.example.com#key-1", "AA=="⟩

theorem merkleTreeHash_two (H : Hasher Digest) (a b : Digest) : merkleTreeHash H [a, b] = H.node a b := by
  simp [merkleTreeHash, largestPow2Lt, doubleWhileLt]

theorem merkleTreeHash_three (H : Hasher Digest) (a b c : Digest) :
    merkleTreeHash H [a, b, c] = H.node (H.node a b) c := by
  simp [merkleTreeHash, largestPow2Lt, doubleWhileLt]

theorem merkleTreeHash_four (H : Hasher Digest) (a b c d : Digest) :
    merkleTreeHash H [a, b, c, d] = H.node (H.node a b) (H.node c d) := by
  simp [merkleTreeHash, largestPow2Lt, doubleWhileLt]

theorem sampleCheckpoint_minted (entries : List (String × Digest)) (root : Digest)
    (hfits : entries.length < 2 ^ 64)
    (hroot : merkleTreeHash (Hasher.ofSha256 loggedEnv.sha256) (entries.map (·.2)) = root) :
    (logOf entries).checkpointAt loggedEnv.toLogEnv sampleSigner entries.length stamp =
      .ok (sampleCheckpoint entries.length root) := by
  have hparsed : parseLogId "did:web:registry.example.com/log/1" =
      .ok ("did:web:registry.example.com", "1") := by
    decide +kernel
  have hstamp : stamp.truncMs = stamp := by decide +kernel
  have hslice : sliceTo (entries.map (·.2)) entries.length = .ok (entries.map (·.2)) := by
    rw [sliceTo_of_le _ _ (by rw [List.length_map]), List.take_of_length_le (by rw [List.length_map])]
  rw [MerkleLog.checkpointAt, MerkleLog.rootAt, checkedSize_of_le _ _ _ (by simp [logOf]) hfits]
  simp only [logOf, bind, Except.bind, hslice, pure, Except.pure, hroot]
  rw [LogSigner.mintLogCheckpoint, hparsed]
  simp [bind, Except.bind, pure, Except.pure, decodeSha256Hex_encode, hstamp, sampleSigner, sampleCheckpoint,
    Except.mapError]

theorem twoLeaves_minted :
    ((logOf []).run loggedEnv.toLogEnv (fourLeafRun.take 2)).checkpointAt loggedEnv.toLogEnv
      sampleSigner 2 stamp = .ok (sampleCheckpoint 2 hashAB) := by
  have hrun : (logOf []).run loggedEnv.toLogEnv (fourLeafRun.take 2) =
      logOf [(uuidA, hashA), (uuidB, hashB)] := by
    rw [fourLeafRun, threeLeafRun, MerkleLog.run]
    simp only [List.cons_append, List.take_succ_cons, List.take_zero]
    rw [runState, appended_uuidA, runState, appended_uuidB, runState]
  rw [hrun]
  exact sampleCheckpoint_minted [(uuidA, hashA), (uuidB, hashB)] hashAB (by decide)
    (by rw [List.map_cons, List.map_cons, List.map_nil, merkleTreeHash_two, hashAB_eq])

theorem threeLeaves_minted :
    ((logOf []).run loggedEnv.toLogEnv (fourLeafRun.take 4)).checkpointAt loggedEnv.toLogEnv
      sampleSigner 3 stamp = .ok (sampleCheckpoint 3 hashABC) := by
  have hrun : (logOf []).run loggedEnv.toLogEnv (fourLeafRun.take 4) = logOf threeLeaves := by
    rw [fourLeafRun, List.take_left' (by decide : threeLeafRun.length = 4), threeLeafRun_log]
  rw [hrun]
  exact sampleCheckpoint_minted threeLeaves hashABC (by decide)
    (by rw [threeLeaves, List.map_cons, List.map_cons, List.map_cons, List.map_nil,
    merkleTreeHash_three, hashAB_eq, hashABC_eq])

theorem fourLeafRun_log : (logOf []).run loggedEnv.toLogEnv fourLeafRun = logOf loggedHashes := by
  have hthree := threeLeafRun_log
  rw [MerkleLog.run] at hthree
  rw [fourLeafRun, MerkleLog.run, runState_append, hthree, runState, appended_uuidD, runState]

theorem fourLeaves_minted :
    ((logOf []).run loggedEnv.toLogEnv (fourLeafRun.take 5)).checkpointAt loggedEnv.toLogEnv
      sampleSigner 4 stamp = .ok (sampleCheckpoint 4 hashABCD) := by
  rw [List.take_of_length_le (by decide), fourLeafRun_log]
  exact sampleCheckpoint_minted loggedHashes hashABCD (by decide)
    (by rw [loggedHashes, List.map_cons, List.map_cons, List.map_cons, List.map_cons, List.map_nil,
      merkleTreeHash_four, hashAB_eq, hashCD_eq, hashABCD_eq])

theorem log_serves_minted_checkpoints_sample :
    (∃ leaf p, (logOf loggedHashes).leaves[1]? = some leaf ∧
      (logOf loggedHashes).inclusionProof loggedEnv.toLogEnv 1 (sampleCheckpoint 3 hashABC) = .ok p ∧
      p.verifyReconstructedLeaf loggedEnv leaf = .ok ()) ∧
    ∃ p, (logOf loggedHashes).consistencyProofResponse loggedEnv.toLogEnv 2 (sampleCheckpoint 3 hashABC) =
      .ok p ∧ p.verifyAgainstFirstRoot loggedEnv (sampleCheckpoint 2 hashAB).rootHash = .ok () := by
  obtain ⟨hincluded, hconsistent⟩ :=
    log_serves_minted_checkpoints loggedEnv "did:web:registry.example.com/log/1"
      (logOf []) rfl fourLeafRun 2 4 sampleSigner sampleSigner 2 3 stamp stamp _ _ twoLeaves_minted
      threeLeaves_minted
  rw [fourLeafRun_log] at hincluded hconsistent
  exact ⟨hincluded 1 (by decide), hconsistent (by decide) (by decide)⟩

def sampleInclusion : LogInclusion where
  logId := "did:web:registry.example.com/log/1"
  leafIndex := 1
  treeSize := 3
  inclusionPath := [encodeSha256Hex hashA, encodeSha256Hex hashC]
  logCheckpoint := sampleCheckpoint 3 hashABC
  leaf := none

theorem sampleInclusion_accepted :
    sampleInclusion.verifyReconstructedLeaf loggedEnv (loggedLeaf uuidB) = .ok () := by
  have hfold : verifyInclusion (Hasher.ofSha256 loggedEnv.sha256) hashB 1 3 [hashA, hashC]
      hashABC = true := by
    simp [verifyInclusion, foldInclusion, afterLeft, hashAB_eq, hashABC_eq]
  exact verifyReconstructedLeaf_of_fold loggedEnv sampleInclusion (loggedLeaf uuidB)
    [hashA, hashC] hashB hashABC (loggedLeaf_hash uuidB hashB (by decide)) rfl rfl (by decide) rfl rfl hfold

theorem log_accepts_only_stored_leaves_sample :
    ∃ bytes stored storedBytes, (loggedLeaf uuidB).canonicalBytes loggedEnv.toLogEnv = .ok bytes ∧
      (logOf loggedHashes).leaves[1]? = some stored ∧ stored.canonicalBytes loggedEnv.toLogEnv =
        .ok storedBytes ∧
      (bytes = storedBytes ∨ ∃ path q, sampleInclusion.inclusionPath.mapM decodeSha256Hex = .ok path ∧
        inclusionPath (Hasher.ofSha256 loggedEnv.sha256) 1 ((logOf loggedHashes).leafHashes.take 3) = some q ∧
        Collision loggedEnv.sha256 (inclusionInputs loggedEnv bytes 1 3 path)
          (inclusionInputs loggedEnv storedBytes 1 3 q)) := by
  rw [← fourLeafRun_log]
  exact log_accepts_only_stored_leaves loggedEnv "did:web:registry.example.com/log/1" (logOf [])
    rfl fourLeafRun 4 sampleSigner 3 stamp _ threeLeaves_minted sampleInclusion rfl (loggedLeaf uuidB)
      sampleInclusion_accepted

def sampleConsistency : LogConsistencyProof where
  logId := "did:web:registry.example.com/log/1"
  firstTreeSize := 3
  secondTreeSize := 4
  consistencyPath := [encodeSha256Hex hashC, encodeSha256Hex hashD, encodeSha256Hex hashAB]
  logCheckpoint := sampleCheckpoint 4 hashABCD

theorem sampleConsistency_accepted :
    sampleConsistency.verifyAgainstFirstRoot loggedEnv (sampleCheckpoint 3 hashABC).rootHash = .ok () := by
  have hfold : verifyConsistency (Hasher.ofSha256 loggedEnv.sha256) 3 4 [hashC, hashD, hashAB]
    hashABC hashABCD =
      true := by
    simp [verifyConsistency, foldConsistency, shiftOdd, afterLeft, hashABC_eq, hashCD_eq, hashABCD_eq]
  exact verifyAgainstFirstRoot_of_fold loggedEnv sampleConsistency [hashC, hashD, hashAB] hashABC
    hashABCD rfl rfl
    rfl rfl hfold

theorem log_histories_agree_sample :
    PrefixOrCollision loggedEnv (logOf threeLeaves) (logOf loggedHashes) (sampleCheckpoint 3 hashABC)
      sampleConsistency := by
  rw [← threeLeafRun_log, ← fourLeafRun_log]
  exact log_histories_agree loggedEnv "did:web:registry.example.com/log/1"
    "did:web:registry.example.com/log/1" (logOf []) (logOf []) rfl rfl threeLeafRun fourLeafRun 4 5
    sampleSigner sampleSigner 3 4 stamp stamp _ _
    threeLeaves_minted fourLeaves_minted sampleConsistency rfl sampleConsistency_accepted

end Sample

end Acdp.Registry.Log
