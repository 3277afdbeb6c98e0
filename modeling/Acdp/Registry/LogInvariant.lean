import Acdp.Registry.Log
import Acdp.Crypto.MerkleCollision
import Acdp.Foundation.Entries
import Acdp.Jcs.Injective
import Acdp.Types.ClosedRoundTrip
import Mathlib.Data.List.Forall2
import Mathlib.Data.Finset.Dedup

namespace Acdp.Registry.Log

open Acdp.Types
open Acdp.Types.Json (Valid)
open Acdp.Crypto (utf8)
open Acdp.Crypto.Merkle
open Acdp.Jcs (render render_eq_iff utf8_inj tryCanonicalizeValue_ok NumberValid)
open Acdp.Foundation.Entries (bind_ok)
open Acdp.Foundation.Transition

/-- The containers of a log are aligned, its identifiers are those of its leaves, and every leaf
belongs to the log's registry. -/
structure LogInvariant (env : LogEnv) (log : MerkleLog) : Prop where
  hashes : List.Forall₂ (fun leaf hash => LogLeaf.leafHash env leaf = .ok hash) log.leaves log.leafHashes
  ids : log.ctxIds = (log.leaves.map (·.ctxId)).toFinset
  distinct : (log.leaves.map (·.ctxId)).Nodup
  origin : ∀ leaf ∈ log.leaves, leaf.ctxId.authority = leaf.originRegistry ∧
    ∃ inst, parseLogId log.logId = .ok (authorityToDidWeb leaf.originRegistry, inst)

theorem checkAppend_ok (env : LogEnv) (log : MerkleLog) (leaf stored : LogLeaf) (hash : Digest)
    (h : log.checkAppend env leaf = .ok (stored, hash)) :
    stored.ctxId ∉ log.ctxIds ∧ stored.ctxId.authority = stored.originRegistry ∧
      (∃ inst, parseLogId log.logId = .ok (authorityToDidWeb stored.originRegistry, inst)) ∧
      stored.leafHash env = .ok hash := by
  rw [MerkleLog.checkAppend] at h
  obtain ⟨value, -, h⟩ := bind_ok _ _ _ h
  obtain ⟨reparsed, -, h⟩ := bind_ok _ _ _ h
  dsimp only at h
  split_ifs at h with hfresh hauthority
  obtain ⟨⟨did, inst⟩, hlog, h⟩ := bind_ok _ _ _ h
  dsimp only at h
  split_ifs at h with hdid
  obtain ⟨hash', hhash, h⟩ := bind_ok _ _ _ h
  obtain ⟨rfl, rfl⟩ := Prod.mk.inj (Except.ok.inj h)
  exact ⟨hfresh, not_not.mp hauthority, ⟨inst, by rw [hlog, not_not.mp hdid]⟩, hhash⟩

theorem append_cases (env : LogEnv) (leaf : LogLeaf) (log : MerkleLog) :
    (∃ e, log.append env leaf = (.error e, log)) ∨
    (∃ stored hash, log.checkAppend env leaf = .ok (stored, hash) ∧
      log.append env leaf = (.ok log.treeSize,
        { log with
          ctxIds := insert stored.ctxId log.ctxIds
          leaves := log.leaves ++ [stored]
          leafHashes := log.leafHashes ++ [hash] })) := by
  rw [MerkleLog.append]
  cases hcheck : log.checkAppend env leaf with
  | error e => exact .inl ⟨e, rfl⟩
  | ok admitted => exact .inr ⟨admitted.1, admitted.2, rfl, rfl⟩

theorem LogInvariant.new (env : LogEnv) (logId : String) (log : MerkleLog)
    (h : MerkleLog.new logId = .ok log) : LogInvariant env log := by
  rw [MerkleLog.new] at h
  obtain ⟨parsed, -, h⟩ := bind_ok _ _ _ h
  obtain rfl := Except.ok.inj h
  exact ⟨.nil, rfl, List.nodup_nil, by simp⟩

theorem LogInvariant.append (env : LogEnv) (leaf : LogLeaf) (log : MerkleLog) (h : LogInvariant env log) :
    LogInvariant env (log.append env leaf).2 := by
  obtain ⟨e, happend⟩ | ⟨stored, hash, hcheck, happend⟩ := append_cases env leaf log
  · rw [happend]
    exact h
  · rw [happend]
    obtain ⟨hfresh, hauthority, hlog, hhash⟩ := checkAppend_ok env log leaf stored hash hcheck
    rw [h.ids, List.mem_toFinset] at hfresh
    refine ⟨List.rel_append h.hashes (.cons hhash .nil), ?_, ?_, ?_⟩
    · ext id
      rw [Finset.mem_insert, h.ids, List.mem_toFinset, List.mem_toFinset, List.map_append, List.mem_append,
        List.map_singleton, List.mem_singleton, or_comm]
    · rw [List.map_append]
      refine List.Nodup.append h.distinct (List.nodup_singleton _) ?_
      intro id hid hid'
      obtain rfl : id = stored.ctxId := by simpa using hid'
      exact hfresh hid
    · intro l hl
      rcases List.mem_append.mp hl with hl | hl
      · exact h.origin l hl
      · rw [List.mem_singleton.mp hl]
        exact ⟨hauthority, hlog⟩

theorem LogInvariant.length_eq (env : LogEnv) (log : MerkleLog) (h : LogInvariant env log) :
    log.leafHashes.length = log.leaves.length :=
  h.hashes.length_eq.symm

theorem checkedSize_ok (env : LogEnv) (log : MerkleLog) (treeSize n : ℕ)
    (h : log.checkedSize env treeSize = .ok n) :
    n = treeSize ∧ treeSize ≤ log.leaves.length ∧ treeSize < 2 ^ env.usizeBits := by
  rw [MerkleLog.checkedSize, usizeTryFrom] at h
  split_ifs at h with hfits
  · rw [Option.filter_some] at h
    split_ifs at h with hle
    · obtain rfl := Except.ok.inj h
      exact ⟨rfl, by simpa using hle, hfits⟩
  · cases h

theorem checkedSize_of_le (env : LogEnv) (log : MerkleLog) (treeSize : ℕ)
    (hle : treeSize ≤ log.leaves.length) (hfits : treeSize < 2 ^ env.usizeBits) :
    log.checkedSize env treeSize = .ok treeSize := by
  rw [MerkleLog.checkedSize, usizeTryFrom, if_pos hfits, Option.filter_some, if_pos (by simpa using hle)]

theorem checkedSize_error (env : LogEnv) (log : MerkleLog) (treeSize : ℕ) (fault : Fault)
    (h : log.checkedSize env treeSize = .error fault) : ∃ e, fault = .error e := by
  rw [MerkleLog.checkedSize] at h
  cases hf : (usizeTryFrom env treeSize).filter (· ≤ log.leaves.length) with
  | some n =>
    rw [hf] at h
    cases h
  | none =>
    rw [hf] at h
    exact ⟨_, (Except.error.inj h).symm⟩

theorem sliceTo_of_le (hashes : List Digest) (n : ℕ) (h : n ≤ hashes.length) :
    sliceTo hashes n = .ok (hashes.take n) := if_pos h

theorem rootAt_no_panic (env : LogEnv) (log : MerkleLog) (h : LogInvariant env log) (treeSize : ℕ)
    (message : String) : log.rootAt env treeSize ≠ .error (.panic message) := by
  intro hpanic
  rw [MerkleLog.rootAt] at hpanic
  cases hsize : log.checkedSize env treeSize with
  | error fault =>
    obtain ⟨e, rfl⟩ := checkedSize_error env log treeSize fault hsize
    rw [hsize] at hpanic
    cases hpanic
  | ok n =>
    obtain ⟨rfl, hle, -⟩ := checkedSize_ok env log treeSize n hsize
    rw [hsize] at hpanic
    simp only [bind, Except.bind, sliceTo_of_le _ n (h.length_eq ▸ hle)] at hpanic
    cases hpanic

theorem checkpointAt_no_panic (env : LogEnv) (log : MerkleLog) (h : LogInvariant env log)
    (signer : LogSigner) (treeSize : ℕ) (timestamp : DateTime) (message : String) :
    log.checkpointAt env signer treeSize timestamp ≠ .error (.panic message) := by
  intro hpanic
  rw [MerkleLog.checkpointAt] at hpanic
  cases hroot : log.rootAt env treeSize with
  | error fault =>
    rw [hroot] at hpanic
    cases hpanic
    exact rootAt_no_panic env log h treeSize message hroot
  | ok root =>
    rw [hroot] at hpanic
    simp only [bind, Except.bind] at hpanic
    cases hmint : signer.mintLogCheckpoint log.logId treeSize (encodeSha256Hex root) timestamp with
    | error e =>
      rw [hmint] at hpanic
      cases hpanic
    | ok checkpoint =>
      rw [hmint] at hpanic
      cases hpanic

theorem inclusionProof_no_panic (env : LogEnv) (log : MerkleLog) (h : LogInvariant env log)
    (leafIndex : ℕ) (checkpoint : LogCheckpoint) (message : String) :
    log.inclusionProof env leafIndex checkpoint ≠ .error (.panic message) := by
  intro hpanic
  rw [MerkleLog.inclusionProof] at hpanic
  split_ifs at hpanic with hlog
  · cases hpanic
  cases hsize : log.checkedSize env checkpoint.treeSize with
  | error fault =>
    obtain ⟨e, rfl⟩ := checkedSize_error env log _ fault hsize
    rw [hsize] at hpanic
    cases hpanic
  | ok n =>
    obtain ⟨rfl, hle, -⟩ := checkedSize_ok env log _ n hsize
    rw [hsize] at hpanic
    have hlen : checkpoint.treeSize ≤ log.leafHashes.length := h.length_eq ▸ hle
    cases hindex : (usizeTryFrom env leafIndex).filter (· < checkpoint.treeSize) with
    | none =>
      simp only [bind, Except.bind, hindex] at hpanic
      cases hpanic
    | some m =>
      have hm : m < checkpoint.treeSize := by
        simpa using (Option.filter_eq_some_iff.mp hindex).2
      obtain ⟨hash, hslice⟩ : ∃ hash, (log.leafHashes.take checkpoint.treeSize)[m]? = some hash :=
        ⟨_, List.getElem?_eq_getElem (by rw [List.length_take]; omega)⟩
      obtain ⟨path, hpath, -⟩ := inclusionPath_climb (Hasher.ofSha256 env.sha256) _ m _ hslice
      simp only [bind, Except.bind, hindex, sliceTo_of_le _ _ hlen, hpath, expectSome] at hpanic
      cases hpanic

theorem consistencyProof_no_panic (env : LogEnv) (log : MerkleLog) (h : LogInvariant env log)
    (first second : ℕ) (message : String) :
    log.consistencyProof env first second ≠ .error (.panic message) := by
  intro hpanic
  rw [MerkleLog.consistencyProof] at hpanic
  cases hsize : log.checkedSize env second with
  | error fault =>
    obtain ⟨e, rfl⟩ := checkedSize_error env log second fault hsize
    rw [hsize] at hpanic
    cases hpanic
  | ok n =>
    obtain ⟨rfl, hle, hfits⟩ := checkedSize_ok env log second n hsize
    rw [hsize] at hpanic
    have hlen : n ≤ log.leafHashes.length := h.length_eq ▸ hle
    simp only [bind, Except.bind] at hpanic
    split_ifs at hpanic with hbounds
    · cases hpanic
    have hfirst : usizeTryFrom env first = some first := if_pos (by omega)
    have hproof : ∃ path, Crypto.Merkle.consistencyProof (Hasher.ofSha256 env.sha256) first
        (log.leafHashes.take n) = some path := by
      refine ⟨_, if_neg ?_⟩
      rw [List.length_take]
      omega
    obtain ⟨path, hpath⟩ := hproof
    simp only [hfirst, sliceTo_of_le _ _ hlen, hpath, expectSome] at hpanic
    cases hpanic

structure LogExtends (log log' : MerkleLog) : Prop where
  logId : log'.logId = log.logId
  leaves : log.leaves <+: log'.leaves
  leafHashes : log.leafHashes <+: log'.leafHashes

theorem LogExtends.append (env : LogEnv) (leaf : LogLeaf) (log : MerkleLog) :
    LogExtends log (log.append env leaf).2 := by
  obtain ⟨e, happend⟩ | ⟨stored, hash, -, happend⟩ := append_cases env leaf log
  · rw [happend]
    exact ⟨rfl, List.prefix_rfl, List.prefix_rfl⟩
  · rw [happend]
    exact ⟨rfl, List.prefix_append _ _, List.prefix_append _ _⟩

variable {env : LogEnv} {log log' : MerkleLog}

theorem LogExtends.checkedSize_eq (hext : LogExtends log log') (k : ℕ) (hk : k ≤ log.leaves.length)
    (hfits : k < 2 ^ env.usizeBits) : log'.checkedSize env k = log.checkedSize env k := by
  rw [checkedSize_of_le env log k hk hfits,
    checkedSize_of_le env log' k (hk.trans hext.leaves.length_le) hfits]

theorem LogExtends.sliceTo_eq (hext : LogExtends log log') (k : ℕ) (hk : k ≤ log.leafHashes.length) :
    sliceTo log'.leafHashes k = sliceTo log.leafHashes k := by
  obtain ⟨added, hadded⟩ := hext.leafHashes
  rw [sliceTo_of_le _ k hk, sliceTo_of_le _ k (hk.trans hext.leafHashes.length_le), ← hadded,
    List.take_append_of_le_length hk]

theorem LogExtends.rootAt_eq (hext : LogExtends log log') (hinv : LogInvariant env log) (k : ℕ)
    (hk : k ≤ log.leaves.length) (hfits : k < 2 ^ env.usizeBits) :
    log'.rootAt env k = log.rootAt env k := by
  rw [MerkleLog.rootAt, MerkleLog.rootAt, hext.checkedSize_eq k hk hfits,
    checkedSize_of_le env log k hk hfits]
  simp only [bind, Except.bind, hext.sliceTo_eq k (hinv.length_eq ▸ hk)]

theorem LogExtends.inclusionProof_eq (hext : LogExtends log log') (hinv : LogInvariant env log)
    (leafIndex : ℕ) (checkpoint : LogCheckpoint) (hk : checkpoint.treeSize ≤ log.leaves.length)
    (hfits : checkpoint.treeSize < 2 ^ env.usizeBits) :
    log'.inclusionProof env leafIndex checkpoint = log.inclusionProof env leafIndex checkpoint := by
  rw [MerkleLog.inclusionProof, MerkleLog.inclusionProof, hext.checkedSize_eq _ hk hfits,
    checkedSize_of_le env log _ hk hfits, hext.logId]
  simp only [bind, Except.bind, hext.sliceTo_eq _ (hinv.length_eq ▸ hk)]

theorem LogExtends.consistencyProof_eq (hext : LogExtends log log') (hinv : LogInvariant env log)
    (first second : ℕ) (hk : second ≤ log.leaves.length) (hfits : second < 2 ^ env.usizeBits) :
    log'.consistencyProof env first second = log.consistencyProof env first second := by
  rw [MerkleLog.consistencyProof, MerkleLog.consistencyProof, hext.checkedSize_eq _ hk hfits,
    checkedSize_of_le env log _ hk hfits]
  simp only [bind, Except.bind, hext.sliceTo_eq _ (hinv.length_eq ▸ hk)]

/-- The log along every sequence of appends: aligned containers, an append that only adds, and
historical roots and proofs that stay what they were. A `Vec` holds fewer than `2 ^ usizeBits` leaves. -/
theorem merkleLog_append_only (env : LogEnv) (logId : String) (empty : MerkleLog)
    (hnew : MerkleLog.new logId = .ok empty) (leaves : List LogLeaf) (log : MerkleLog)
    (hlog : log = empty.run env leaves) (hfits : log.leaves.length < 2 ^ env.usizeBits) :
    LogInvariant env log ∧
    (∀ leaf e, (log.append env leaf).1 = .error e → (log.append env leaf).2 = log) ∧
    (∀ leaf index, (log.append env leaf).1 = .ok index → index = log.treeSize ∧
      ∀ k ≤ log.treeSize, (log.append env leaf).2.rootAt env k = log.rootAt env k ∧
        (∀ leafIndex checkpoint, checkpoint.treeSize = k →
          (log.append env leaf).2.inclusionProof env leafIndex checkpoint =
            log.inclusionProof env leafIndex checkpoint) ∧
        ∀ first, (log.append env leaf).2.consistencyProof env first k =
          log.consistencyProof env first k) ∧
    (∀ k message, log.rootAt env k ≠ .error (.panic message)) ∧
    (∀ signer k timestamp message, log.checkpointAt env signer k timestamp ≠ .error (.panic message)) ∧
    (∀ leafIndex checkpoint message,
      log.inclusionProof env leafIndex checkpoint ≠ .error (.panic message)) ∧
    (∀ first second message, log.consistencyProof env first second ≠ .error (.panic message)) := by
  have hinv : LogInvariant env log := by
    rw [hlog]
    exact runState_invariant (MerkleLog.append env) (fun _ => True) (LogInvariant env)
      (fun leaf log _ h => h.append env leaf log) leaves empty (fun _ _ => trivial)
      (LogInvariant.new env logId empty hnew)
  refine ⟨hinv, ?_, ?_, rootAt_no_panic env log hinv, checkpointAt_no_panic env log hinv,
    inclusionProof_no_panic env log hinv, consistencyProof_no_panic env log hinv⟩
  · intro leaf e he
    obtain ⟨e', happend⟩ | ⟨stored, hash, -, happend⟩ := append_cases env leaf log
    · rw [happend]
    · rw [happend] at he
      cases he
  · intro leaf index hindex
    have hext := LogExtends.append env leaf log
    refine ⟨?_, ?_⟩
    · obtain ⟨e', happend⟩ | ⟨stored, hash, -, happend⟩ := append_cases env leaf log
      · rw [happend] at hindex
        cases hindex
      · rw [happend] at hindex
        exact (Except.ok.inj hindex).symm
    · intro k hk
      have hkfits : k < 2 ^ env.usizeBits := lt_of_le_of_lt hk hfits
      refine ⟨hext.rootAt_eq hinv k hk hkfits, ?_,
        fun first => hext.consistencyProof_eq hinv first k hk hkfits⟩
      rintro leafIndex checkpoint rfl
      exact hext.inclusionProof_eq hinv leafIndex checkpoint hk hkfits

section Sample

def loggedLeaf (uuid : String) : LogLeaf where
  leafVersion := "acdp-log-leaf/1"
  ctxId := "acdp://registry.example.com/" ++ uuid
  lineageId := "lin:sha256:4c63394418b2e784aef68f5a091535c557453c21231f5905f21a38c02913cd86"
  originRegistry := "registry.example.com"
  createdAt := stamp
  contentHash := "sha256:1111111111111111111111111111111111111111111111111111111111111111"
  keyFingerprint := "sha256:2222222222222222222222222222222222222222222222222222222222222222"
  receiptHash := "sha256:3333333333333333333333333333333333333333333333333333333333333333"

def uuidA : String := "11111111-1111-4111-8111-111111111111"

def uuidB : String := "22222222-2222-4222-8222-222222222222"

def uuidC : String := "33333333-3333-4333-8333-333333333333"

def uuidD : String := "44444444-4444-4444-8444-444444444444"

def hashA : Digest := #v[97, 69, 131, 208, 161, 27, 239, 207, 43, 253, 156, 127, 86, 15, 82, 105,
  172, 147, 142, 135, 107, 84, 38, 23, 212, 214, 202, 1, 211, 24, 75, 171]

def hashB : Digest := #v[146, 213, 6, 43, 243, 122, 167, 152, 28, 64, 187, 233, 169, 92, 3, 108,
  108, 16, 71, 255, 87, 138, 11, 103, 77, 77, 215, 252, 196, 88, 29, 163]

def hashC : Digest := #v[51, 36, 4, 51, 34, 8, 137, 57, 171, 104, 60, 95, 33, 183, 5, 135,
  54, 248, 27, 234, 57, 110, 84, 157, 80, 27, 146, 206, 140, 92, 237, 177]

def hashD : Digest := #v[172, 82, 25, 48, 197, 151, 145, 228, 27, 138, 28, 61, 62, 235, 91, 161,
  138, 224, 126, 249, 87, 107, 55, 155, 176, 188, 116, 222, 20, 7, 26, 77]

def hashAB : Digest := #v[182, 184, 65, 89, 74, 233, 187, 20, 14, 13, 170, 4, 115, 143, 174, 249,
  227, 73, 40, 182, 242, 152, 188, 230, 232, 98, 130, 127, 145, 166, 101, 13]

def hashCD : Digest := #v[160, 237, 37, 92, 85, 61, 214, 107, 75, 195, 27, 124, 248, 196, 117, 254,
  178, 122, 135, 7, 48, 216, 86, 229, 148, 11, 20, 204, 126, 116, 243, 97]

def hashABC : Digest := #v[213, 28, 152, 181, 55, 165, 134, 113, 70, 178, 180, 161, 116, 253, 133, 253,
  46, 207, 220, 168, 107, 77, 123, 122, 143, 119, 98, 247, 99, 202, 54, 213]

def hashABCD : Digest := #v[13, 122, 37, 237, 144, 34, 2, 12, 111, 216, 151, 186, 20, 190, 51, 218,
  168, 76, 113, 172, 218, 207, 168, 116, 174, 75, 195, 127, 237, 125, 189, 22]

def loggedHashes : List (String × Digest) := [(uuidA, hashA), (uuidB, hashB), (uuidC, hashC), (uuidD, hashD)]

def threeLeaves : List (String × Digest) := [(uuidA, hashA), (uuidB, hashB), (uuidC, hashC)]

def leafInput (leaf : LogLeaf) : List UInt8 :=
  leafHashPrefix :: utf8 (String.ofList (render (fun _ => Jcs.one) (leaf.toValue plainEnv)))

def loggedDigests : List (List UInt8 × Digest) :=
  [(nodeInput (hashA, hashB), hashAB), (nodeInput (hashC, hashD), hashCD),
    (nodeInput (hashAB, hashC), hashABC), (nodeInput (hashAB, hashCD), hashABCD)] ++
    loggedHashes.map (fun p => (leafInput (loggedLeaf p.1), p.2))

def loggedEnv : Env :=
  { closedEnv.toEnv with sha256 := fun bytes => (loggedDigests.lookup bytes).getD (Vector.replicate 32 0) }

def logOf (entries : List (String × Digest)) : MerkleLog where
  logId := "did:web:registry.example.com/log/1"
  leaves := entries.map (fun p => loggedLeaf p.1)
  leafHashes := entries.map (·.2)
  ctxIds := (entries.map (fun p => (loggedLeaf p.1).ctxId)).toFinset

theorem loggedEnv_sha256 (bytes : List UInt8) :
    loggedEnv.sha256 bytes = (loggedDigests.lookup bytes).getD (Vector.replicate 32 0) := rfl

theorem leafInput_inj (a b : String) (h : leafInput (loggedLeaf a) = leafInput (loggedLeaf b)) : a = b := by
  have hvalid (uuid : String) : Valid NumberValid ((loggedLeaf uuid).toValue plainEnv) := by
    simp [LogLeaf.toValue, LogLeaf.members, Valid, Json.ValidMembers]
  rw [leafInput, leafInput, List.cons_inj_right, utf8_inj, String.ofList_inj,
    render_eq_iff _ _ _ (hvalid a) (hvalid b)] at h
  obtain ⟨-, -, ⟨other, hother, hsame⟩, -⟩ := h
  obtain rfl := Option.some.inj hother
  exact (String.append_right_inj _).mp hsame

theorem lookup_leafInput (uuid : String) (entries : List (String × Digest)) :
    (entries.map (fun p => (leafInput (loggedLeaf p.1), p.2))).lookup (leafInput (loggedLeaf uuid)) =
      entries.lookup uuid := by
  induction entries with
  | nil => rfl
  | cons p entries ih =>
    have hkey : (leafInput (loggedLeaf uuid) == leafInput (loggedLeaf p.1)) = (uuid == p.1) := by
      rw [Bool.eq_iff_iff, beq_iff_eq, beq_iff_eq]
      exact ⟨leafInput_inj uuid p.1, fun h => by rw [h]⟩
    rw [List.map_cons, List.lookup_cons, List.lookup_cons, ih, hkey]

theorem loggedLeaf_hash (uuid : String) (hash : Digest) (h : loggedHashes.lookup uuid = some hash) :
    (loggedLeaf uuid).leafHash loggedEnv.toLogEnv = .ok hash := by
  have hcanonical : (loggedLeaf uuid).canonicalBytes loggedEnv.toLogEnv =
      .ok (utf8 (String.ofList (render (fun _ => Jcs.one) ((loggedLeaf uuid).toValue plainEnv)))) :=
    tryCanonicalizeValue_ok (fun _ => Jcs.one) ((loggedLeaf uuid).toValue plainEnv)
      (by simp [LogLeaf.toValue, LogLeaf.members, Json.depth, Json.depthMembers])
  have hnode (x : Digest × Digest) : (leafInput (loggedLeaf uuid) == nodeInput x) = false := by
    rw [beq_eq_false_iff_ne, nodeInput, leafInput, ne_eq, List.cons.injEq, not_and]
    exact fun h => absurd h (by decide)
  have hdigest : loggedEnv.sha256 (leafInput (loggedLeaf uuid)) = hash := by
    rw [loggedEnv_sha256, loggedDigests]
    simp only [List.cons_append, List.nil_append, List.lookup_cons, hnode, lookup_leafInput, h,
      Option.getD_some]
  rw [LogLeaf.leafHash, hcanonical]
  exact congrArg Except.ok hdigest

theorem loggedLeaf_read (uuid : String) :
    LogLeaf.fromValue loggedEnv.toLogEnv ((loggedLeaf uuid).toValue plainEnv) = .ok (loggedLeaf uuid) := by
  have hread : loggedEnv.leafDeserialize ((loggedLeaf uuid).toValue plainEnv) = .ok (loggedLeaf uuid) := rfl
  have hversion : (loggedLeaf uuid).leafVersion = logLeafVersion := rfl
  have hcreated : (((loggedLeaf uuid).toValue plainEnv).get "created_at").bind Json.asStr = some stampText :=
    rfl
  have hcanonical : isCanonicalMsUtc loggedEnv.toLogEnv stampText = true := by decide +kernel
  rw [LogLeaf.fromValue, hread]
  dsimp only
  rw [if_neg (not_not.mpr hversion), hcreated]
  exact if_pos hcanonical

theorem loggedLeaf_authority (uuid : String) :
    (loggedLeaf uuid).ctxId.authority = "registry.example.com" := by
  simp [loggedLeaf, CtxId.authority, Text.stripPrefix, Text.beforeChar, List.isPrefixOf?]

theorem logOf_append (entries : List (String × Digest)) (uuid : String) (hash : Digest)
    (hfresh : (loggedLeaf uuid).ctxId ∉ (logOf entries).ctxIds)
    (hhash : loggedHashes.lookup uuid = some hash) :
    (logOf entries).append loggedEnv.toLogEnv (loggedLeaf uuid) =
      (.ok entries.length, logOf (entries ++ [(uuid, hash)])) := by
  have hvalue : loggedEnv.leafToValue (loggedLeaf uuid) = .ok ((loggedLeaf uuid).toValue plainEnv) := rfl
  have hid : parseLogId "did:web:registry.example.com/log/1" = .ok ("did:web:registry.example.com", "1") := by
    decide +kernel
  have hdid : authorityToDidWeb "registry.example.com" = "did:web:registry.example.com" := by
    simp [authorityToDidWeb, Text.replaceChar]
  have horigin : (loggedLeaf uuid).originRegistry = "registry.example.com" := rfl
  have hcheck : (logOf entries).checkAppend loggedEnv.toLogEnv (loggedLeaf uuid) =
      .ok (loggedLeaf uuid, hash) := by
    rw [MerkleLog.checkAppend, hvalue]
    simp only [bind, Except.bind, loggedLeaf_read]
    rw [if_neg hfresh, loggedLeaf_authority, horigin, if_neg (by decide), logOf, hid]
    simp [hdid, loggedLeaf_hash uuid hash hhash, pure, Except.pure]
  have hids : insert (loggedLeaf uuid).ctxId (logOf entries).ctxIds =
      (logOf (entries ++ [(uuid, hash)])).ctxIds := by
    ext id
    rw [logOf, logOf, Finset.mem_insert, List.mem_toFinset, List.mem_toFinset, List.map_append,
      List.mem_append, List.map_singleton, List.mem_singleton, or_comm]
  rw [MerkleLog.append, hcheck]
  dsimp only
  rw [hids]
  simp [logOf]

theorem logOf_append_repeated (entries : List (String × Digest)) (uuid : String)
    (hrepeated : (loggedLeaf uuid).ctxId ∈ (logOf entries).ctxIds) :
    ∃ e, (logOf entries).append loggedEnv.toLogEnv (loggedLeaf uuid) = (.error e, logOf entries) := by
  have hvalue : loggedEnv.leafToValue (loggedLeaf uuid) = .ok ((loggedLeaf uuid).toValue plainEnv) := rfl
  rw [MerkleLog.append, MerkleLog.checkAppend, hvalue]
  simp only [bind, Except.bind, loggedLeaf_read]
  rw [if_pos hrepeated]
  exact ⟨_, rfl⟩

theorem hashAB_eq : (Hasher.ofSha256 loggedEnv.sha256).node hashA hashB = hashAB := by decide +kernel

theorem hashCD_eq : (Hasher.ofSha256 loggedEnv.sha256).node hashC hashD = hashCD := by decide +kernel

theorem hashABC_eq : (Hasher.ofSha256 loggedEnv.sha256).node hashAB hashC = hashABC := by decide +kernel

theorem hashABCD_eq : (Hasher.ofSha256 loggedEnv.sha256).node hashAB hashCD = hashABCD := by decide +kernel

theorem appended_uuidA :
    (logOf []).append loggedEnv.toLogEnv (loggedLeaf uuidA) = (.ok 0, logOf [(uuidA, hashA)]) :=
  logOf_append [] uuidA hashA (by decide) (by decide)

theorem appended_uuidB : (logOf [(uuidA, hashA)]).append loggedEnv.toLogEnv (loggedLeaf uuidB) =
    (.ok 1, logOf [(uuidA, hashA), (uuidB, hashB)]) :=
  logOf_append [(uuidA, hashA)] uuidB hashB (by decide) (by decide)

theorem appended_uuidC : (logOf [(uuidA, hashA), (uuidB, hashB)]).append loggedEnv.toLogEnv
    (loggedLeaf uuidC) = (.ok 2, logOf threeLeaves) :=
  logOf_append [(uuidA, hashA), (uuidB, hashB)] uuidC hashC (by decide) (by decide)

theorem appended_uuidD :
    (logOf threeLeaves).append loggedEnv.toLogEnv (loggedLeaf uuidD) = (.ok 3, logOf loggedHashes) :=
  logOf_append threeLeaves uuidD hashD (by decide) (by decide)

def threeLeafRun : List LogLeaf := [loggedLeaf uuidA, loggedLeaf uuidB, loggedLeaf uuidB, loggedLeaf uuidC]

theorem threeLeafRun_log :
    (logOf []).run loggedEnv.toLogEnv threeLeafRun = logOf threeLeaves := by
  obtain ⟨e, hrepeated⟩ := logOf_append_repeated [(uuidA, hashA), (uuidB, hashB)] uuidB (by decide)
  rw [MerkleLog.run, threeLeafRun, runState, appended_uuidA, runState, appended_uuidB, runState,
    hrepeated, runState, appended_uuidC, runState]

theorem merkleLog_append_only_sample :
    LogInvariant loggedEnv.toLogEnv (logOf threeLeaves) ∧
    (∃ e, ((logOf threeLeaves).append loggedEnv.toLogEnv (loggedLeaf uuidB)).1 = .error e ∧
      ((logOf threeLeaves).append loggedEnv.toLogEnv (loggedLeaf uuidB)).2 = logOf threeLeaves) ∧
    ((logOf threeLeaves).append loggedEnv.toLogEnv (loggedLeaf uuidD)).2.rootAt loggedEnv.toLogEnv 2 =
      (logOf threeLeaves).rootAt loggedEnv.toLogEnv 2 := by
  obtain ⟨hinv, hkept, hgrown, -⟩ :=
    merkleLog_append_only loggedEnv.toLogEnv "did:web:registry.example.com/log/1"
      (logOf []) rfl threeLeafRun (logOf threeLeaves) threeLeafRun_log.symm (by decide)
  refine ⟨hinv, ?_, ((hgrown _ 3 (congrArg Prod.fst appended_uuidD)).2 2 (by decide)).1⟩
  obtain ⟨e, he⟩ := logOf_append_repeated threeLeaves uuidB (by decide)
  exact ⟨e, congrArg Prod.fst he, hkept _ e (congrArg Prod.fst he)⟩

end Sample

end Acdp.Registry.Log
