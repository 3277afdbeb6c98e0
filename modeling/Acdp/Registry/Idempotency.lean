import Acdp.Registry.LineageHead
import Mathlib.Data.List.Induction

namespace Acdp.Registry.Store

open Acdp.Types
open Acdp.Crypto.Merkle (Digest)
open Acdp.Foundation.Transition

def StoreCall.idempotencyKey : StoreCall → Option (AgentDid × String)
  | .commitPublish commit _ _ => commit.idempotency.map (fun idem => (commit.req.agentId, idem.key))
  | .markSuperseded _ => none
  | .commitLifecycleEvent _ _ => none

def StoreCall.clock : StoreCall → Option ℤ
  | .commitPublish _ now _ => some now.nanos
  | .markSuperseded _ => none
  | .commitLifecycleEvent _ now => some now.nanos

def StoreCall.contentHash : StoreCall → Option ContentHash
  | .commitPublish commit _ _ => some commit.req.contentHash
  | .markSuperseded _ => none
  | .commitLifecycleEvent _ _ => none

theorem insertContext_idempotency (s : Inner) (ctx : FullContext) :
    (s.insertContext ctx).idempotency = s.idempotency := rfl

theorem supersedePredecessor_idempotency (s : Inner) (supersedes : Option CtxId) :
    (s.supersedePredecessor supersedes).idempotency = s.idempotency := by
  cases supersedes <;> rfl

theorem publish_idempotency (s : Inner) (commit : PublishCommit) (now : DateTime) (body : Body)
    (registryReceipt : Option Json) :
    (s.publish commit now body registryReceipt).idempotency =
      match commit.idempotency with
      | none => s.idempotency
      | some idem => Function.update s.idempotency (commit.req.agentId, idem.key)
          (some ⟨commit.req.contentHash, publishResponse commit.req body registryReceipt,
            now.nanos + idem.ttl⟩) := by
  rw [Inner.publish, Inner.recordIdempotency]
  cases commit.idempotency with
  | none => exact supersedePredecessor_idempotency _ _
  | some idem =>
    dsimp only
    rw [supersedePredecessor_idempotency, insertContext_idempotency]

theorem apply_record_kept (sha256 : List UInt8 → Digest) (call : StoreCall) (s : Inner)
    (key : AgentDid × String)
    (h : call.idempotencyKey = some key → ∀ r, (call.apply sha256 s).1 ≠ .published (.ok (.inserted r))) :
    (call.apply sha256 s).2.idempotency key = s.idempotency key := by
  cases call with
  | commitPublish commit now uuid =>
    rw [StoreCall.apply] at h ⊢
    obtain ⟨o, -, hcall⟩ | ⟨e, -, -, hcall⟩ | ⟨body, receipt, -, -, hcall⟩ :=
      commitPublish_cases sha256 commit now uuid s
    · rw [hcall]
      rfl
    · rw [hcall]
      rfl
    · rw [hcall] at h ⊢
      have hkey : (StoreCall.commitPublish commit now uuid).idempotencyKey ≠ some key :=
        fun hkey => h hkey _ rfl
      change (s.publish commit now body receipt).idempotency key = s.idempotency key
      rw [publish_idempotency]
      rw [StoreCall.idempotencyKey] at hkey
      cases hidem : commit.idempotency with
      | none => rfl
      | some idem =>
        rw [hidem] at hkey
        exact Function.update_of_ne (fun he => hkey (congrArg some he.symm)) _ _
  | markSuperseded ctxId => rfl
  | commitLifecycleEvent event now =>
    rw [StoreCall.apply]
    obtain ⟨e, hcall⟩ | ⟨ctx, -, -, hcall⟩ | ⟨ctx, -, -, -, hcall⟩ :=
      commitLifecycleEvent_cases event now s
    · rw [hcall]
      rfl
    · rw [hcall]
      rfl
    · rw [hcall]
      rfl

theorem idempotencyKey_eq_some (call : StoreCall) (key : AgentDid × String)
    (h : call.idempotencyKey = some key) :
    ∃ commit now uuid idem, call = .commitPublish commit now uuid ∧
      commit.idempotency = some idem ∧ key = (commit.req.agentId, idem.key) := by
  cases call with
  | commitPublish commit now uuid =>
    obtain ⟨idem, hidem, rfl⟩ := Option.map_eq_some_iff.mp h
    exact ⟨commit, now, uuid, idem, rfl, hidem, rfl⟩
  | markSuperseded ctxId => cases h
  | commitLifecycleEvent event now => cases h

theorem apply_live_record (sha256 : List UInt8 → Digest) (call : StoreCall) (s : Inner)
    (key : AgentDid × String) (record : IdempotencyRecord) (hkey : call.idempotencyKey = some key)
    (hrecord : s.idempotency key = some record) (hlive : ∀ t ∈ call.clock, t < record.expiresAt) :
    (call.contentHash = some record.contentHash →
      call.apply sha256 s = (.published (.ok (.idempotentReplay record.response)), s)) ∧
    (call.contentHash ≠ some record.contentHash →
      ∃ message, call.apply sha256 s = (.published (.error (.duplicatePublish message)), s)) := by
  obtain ⟨commit, now, uuid, idem, rfl, hidem, rfl⟩ := idempotencyKey_eq_some call key hkey
  have hnow : now.nanos < record.expiresAt := hlive now.nanos rfl
  constructor
  · intro hhash
    have heq : record.contentHash = commit.req.contentHash := (Option.some.inj hhash).symm
    rw [StoreCall.apply, commitPublish, replayOrCollision, hidem]
    simp only [hrecord, if_pos hnow, if_pos heq]
    rfl
  · intro hhash
    have hne : record.contentHash ≠ commit.req.contentHash := fun he => hhash (congrArg some he.symm)
    rw [StoreCall.apply, commitPublish, replayOrCollision, hidem]
    simp only [hrecord, if_pos hnow, if_neg hne]
    exact ⟨_, rfl⟩

/-- No call of the key inserts a context in the run of the calls from `s`. -/
def NoInsertUnder (sha256 : List UInt8 → Digest) (key : AgentDid × String) (s : Inner)
    (calls : List StoreCall) : Prop :=
  ∀ before call after r, calls = before ++ call :: after → call.idempotencyKey = some key →
    (call.apply sha256 (runCalls sha256 before s)).1 ≠ .published (.ok (.inserted r))

theorem NoInsertUnder.initial {sha256 : List UInt8 → Digest} {key : AgentDid × String} {s : Inner}
    {calls rest : List StoreCall} (h : NoInsertUnder sha256 key s (calls ++ rest)) :
    NoInsertUnder sha256 key s calls := by
  rintro before call after r rfl hkey
  exact h before call (after ++ rest) r (by simp) hkey

theorem runCalls_record_kept (sha256 : List UInt8 → Digest) (key : AgentDid × String) (s : Inner)
    (calls : List StoreCall) (h : NoInsertUnder sha256 key s calls) :
    (runCalls sha256 calls s).idempotency key = s.idempotency key := by
  induction calls using List.reverseRecOn with
  | nil => rfl
  | append_singleton calls call ih =>
    rw [runCalls, runState_append]
    change (call.apply sha256 (runCalls sha256 calls s)).2.idempotency key = _
    rw [apply_record_kept sha256 call _ key (fun hkey r => h calls call [] r rfl hkey)]
    exact ih h.initial

theorem apply_no_record (sha256 : List UInt8 → Digest) (call : StoreCall) (s : Inner)
    (key : AgentDid × String) (hkey : call.idempotencyKey = some key)
    (hrecord : s.idempotency key = none) :
    (∃ r, (call.apply sha256 s).1 = .published (.ok (.inserted r))) ∨
    (∃ e, call.apply sha256 s = (.published (.error e), s)) := by
  obtain ⟨commit, now, uuid, idem, rfl, hidem, rfl⟩ := idempotencyKey_eq_some call key hkey
  rw [StoreCall.apply]
  obtain ⟨o, hreplay, -⟩ | ⟨e, -, -, hcall⟩ | ⟨body, receipt, -, -, hcall⟩ :=
    commitPublish_cases sha256 commit now uuid s
  · obtain ⟨idem', prior, hidem', hprior, -⟩ := replayOrCollision_some s commit now o hreplay
    obtain rfl : idem = idem' := Option.some.inj (hidem.symm.trans hidem')
    rw [hrecord] at hprior
    cases hprior
  · exact .inr ⟨e, by rw [hcall]; rfl⟩
  · exact .inl ⟨_, by rw [hcall]; rfl⟩

theorem commitPublish_inserted_record (sha256 : List UInt8 → Digest) (commit : PublishCommit)
    (now : DateTime) (uuid : String) (s : Inner) (idem : PendingIdempotencyCommit)
    (r : PublishResponse) (hidem : commit.idempotency = some idem)
    (hins : (commitPublish sha256 commit now uuid s).1 = .ok (.inserted r)) :
    (commitPublish sha256 commit now uuid s).2.idempotency (commit.req.agentId, idem.key) =
      some ⟨commit.req.contentHash, r, now.nanos + idem.ttl⟩ := by
  obtain ⟨o, hreplay, hcall⟩ | ⟨e, -, -, hcall⟩ | ⟨body, receipt, -, -, hcall⟩ :=
    commitPublish_cases sha256 commit now uuid s
  · rw [hcall] at hins
    dsimp only at hins
    obtain ⟨idem', prior, -, -, -, ⟨-, ho⟩ | ⟨-, msg, ho⟩⟩ :=
      replayOrCollision_some s commit now o hreplay
    · rw [ho] at hins
      cases hins
    · rw [ho] at hins
      cases hins
  · rw [hcall] at hins
    cases hins
  · rw [hcall] at hins
    injection hins with hins
    injection hins with hins
    subst hins
    rw [hcall]
    dsimp only
    rw [publish_idempotency, hidem]
    exact Function.update_self _ _ _

/-- From the call that first inserts under a key on, and until another call of the key inserts, every call of
the key that reads its clock before the record's expiry is answered from that one record. -/
theorem commitPublish_idempotent (sha256 : List UInt8 → Digest) (before : List StoreCall)
    (commit : PublishCommit) (now : DateTime) (uuid : String) (idem : PendingIdempotencyCommit)
    (r : PublishResponse) (hidem : commit.idempotency = some idem)
    (hbefore : NoInsertUnder sha256 (commit.req.agentId, idem.key) Inner.new before)
    (hins : (commitPublish sha256 commit now uuid (runCalls sha256 before Inner.new)).1 =
      .ok (.inserted r)) :
    (∀ earlier call rest, before = earlier ++ call :: rest →
      call.idempotencyKey = some (commit.req.agentId, idem.key) →
        ∃ e, call.apply sha256 (runCalls sha256 earlier Inner.new) =
          (.published (.error e), runCalls sha256 earlier Inner.new)) ∧
    (∀ (after : List StoreCall) (call : StoreCall) (s : Inner),
      s = runCalls sha256 (before ++ .commitPublish commit now uuid :: after) Inner.new →
      NoInsertUnder sha256 (commit.req.agentId, idem.key)
        (runCalls sha256 (before ++ [.commitPublish commit now uuid]) Inner.new) after →
      call.idempotencyKey = some (commit.req.agentId, idem.key) →
      (∀ t ∈ call.clock, t < now.nanos + idem.ttl) →
      (call.contentHash = some commit.req.contentHash →
        call.apply sha256 s = (.published (.ok (.idempotentReplay r)), s)) ∧
      (call.contentHash ≠ some commit.req.contentHash →
        ∃ message, call.apply sha256 s = (.published (.error (.duplicatePublish message)), s))) ∧
    (∀ (call : StoreCall) (s : Inner) (other : PublishCommit) (clock : DateTime) (fresh : String),
      call.idempotencyKey ≠ some (commit.req.agentId, idem.key) →
      StoreCall.idempotencyKey (.commitPublish other clock fresh) =
        some (commit.req.agentId, idem.key) →
      replayOrCollision (call.apply sha256 s).2 other clock = replayOrCollision s other clock) := by
  refine ⟨?_, ?_, ?_⟩
  · rintro earlier call rest rfl hkey
    have hnone : (runCalls sha256 earlier Inner.new).idempotency (commit.req.agentId, idem.key) = none :=
      runCalls_record_kept sha256 _ Inner.new earlier hbefore.initial
    obtain ⟨r', hr'⟩ | he := apply_no_record sha256 call _ _ hkey hnone
    · exact absurd hr' (hbefore earlier call rest r' rfl hkey)
    · exact he
  · rintro after call s rfl hno hkey hlive
    have hrecord := commitPublish_inserted_record sha256 commit now uuid _ idem r hidem hins
    have hrun : (runCalls sha256 (before ++ .commitPublish commit now uuid :: after)
        Inner.new).idempotency (commit.req.agentId, idem.key) =
          some ⟨commit.req.contentHash, r, now.nanos + idem.ttl⟩ := by
      rw [List.append_cons, runCalls, runState_append]
      change (runCalls sha256 after (runCalls sha256 (before ++ [_]) Inner.new)).idempotency _ = _
      rw [runCalls_record_kept sha256 _ _ after hno, runCalls, runState_append]
      exact hrecord
    exact apply_live_record sha256 call _ _ _ hkey hrun hlive
  · intro call s other clock fresh hkey hother
    obtain ⟨idem', hidem', hk⟩ := Option.map_eq_some_iff.mp hother
    rw [replayOrCollision, replayOrCollision, hidem']
    simp only [hk, apply_record_kept sha256 call s _ (absurd · hkey)]

def sampleIdempotent (contentHash : ContentHash) : PublishCommit :=
  sampleCommit (sampleRequest 1 none contentHash) (some ⟨"retry-1", 10000000000⟩)

def sampleInserted (createdAt : DateTime) (ctxId : CtxId) : PublishResponse where
  ctxId := ctxId
  lineageId := Acdp.Crypto.deriveLineageId sampleSha256 ctxId
  version := 1
  createdAt := createdAt
  status := .active
  registryReceipt := none

def sampleAfterFirst : Inner :=
  runCalls sampleSha256 [.commitPublish (sampleIdempotent "sha256:01") (sampleInstant 0) sampleUuid1]
    Inner.new

def sampleUnavailableMinter : PublishCommit :=
  { sampleIdempotent "sha256:01" with
    receiptMinter := some (fun _ => .error (.registryInternal "receipt key unavailable")) }

theorem commitPublish_idempotent_sample :
    StoreCall.apply sampleSha256
      (.commitPublish (sampleIdempotent "sha256:01") (sampleInstant 9) sampleUuid2)
      (runCalls sampleSha256 [.commitPublish sampleUnavailableMinter (sampleInstant 20) sampleUuid2]
        sampleAfterFirst) =
      (.published (.ok (.idempotentReplay (sampleInserted (sampleInstant 0) sampleCtx1))),
        runCalls sampleSha256 [.commitPublish sampleUnavailableMinter (sampleInstant 20) sampleUuid2]
          sampleAfterFirst) := by
  refine ((commitPublish_idempotent sampleSha256 [] (sampleIdempotent "sha256:01") (sampleInstant 0)
    sampleUuid1 ⟨"retry-1", 10000000000⟩ (sampleInserted (sampleInstant 0) sampleCtx1) rfl ?_ ?_).2.1
      [.commitPublish sampleUnavailableMinter (sampleInstant 20) sampleUuid2] _ _ rfl ?_ rfl ?_).1 rfl
  · intro before call after r h
    simp at h
  · rfl
  · intro before call after r h _ hins
    obtain ⟨rfl, hcall⟩ | ⟨-, hcall⟩ := List.singleton_eq_append_iff.mp h
    · obtain ⟨rfl, -⟩ := List.cons.inj hcall
      cases hins
    · cases hcall
  · intro t ht
    obtain rfl : _ = t := Option.some.inj ht
    decide

theorem commitPublish_replays_overwritten_record :
    ((StoreCall.commitPublish sampleUnavailableMinter (sampleInstant 0) sampleUuid2).apply
        sampleSha256 Inner.new).1 =
      .published (.error (.registryInternal "receipt key unavailable")) ∧
    ((StoreCall.commitPublish (sampleIdempotent "sha256:01") (sampleInstant 0) sampleUuid1).apply
        sampleSha256 (runCalls sampleSha256
          [.commitPublish sampleUnavailableMinter (sampleInstant 0) sampleUuid2] Inner.new)).1 =
      .published (.ok (.inserted (sampleInserted (sampleInstant 0) sampleCtx1))) ∧
    ((StoreCall.commitPublish (sampleIdempotent "sha256:01") (sampleInstant 20) sampleUuid2).apply
        sampleSha256 sampleAfterFirst).1 =
      .published (.ok (.inserted (sampleInserted (sampleInstant 20) sampleCtx2))) ∧
    ((StoreCall.commitPublish (sampleIdempotent "sha256:01") (sampleInstant 9) sampleUuid2).apply
        sampleSha256 ((StoreCall.commitPublish (sampleIdempotent "sha256:01") (sampleInstant 20)
          sampleUuid2).apply sampleSha256 sampleAfterFirst).2).1 =
      .published (.ok (.idempotentReplay (sampleInserted (sampleInstant 20) sampleCtx2))) ∧
    (sampleInstant 9).nanos < (sampleInstant 0).nanos + 10000000000 ∧
    sampleInserted (sampleInstant 20) sampleCtx2 ≠ sampleInserted (sampleInstant 0) sampleCtx1 :=
  ⟨rfl, rfl, rfl, rfl, by decide, by decide +kernel⟩

end Acdp.Registry.Store
