import Acdp.Types.Lifecycle
import Acdp.Types.ClosedRoundTrip
import Acdp.Types.JsonSame

namespace Acdp.Registry.Lifecycle

open Acdp.Types

def bodyFieldNames : List String :=
  ["body",
    "ctx_id", "lineage_id", "origin_registry", "created_at",
    "content_hash", "signature",
    "version", "supersedes", "agent_id", "contributors", "title", "type", "data_refs", "derived_from",
    "visibility", "audience", "acdp_version", "description", "summary", "tags", "domain", "expires_at",
    "data_period", "metadata", "schema_uri", "anchors",
    "key_attestation"]

inductive RequestError where
  | immutableField (message : String)
  | acdp (e : AcdpError)
deriving DecidableEq, Repr

def RequestError.isImmutableField : RequestError → Bool
  | .immutableField _ => true
  | .acdp _ => false

def immutableMember (key : String) : RequestError :=
  .immutableField ("lifecycle request member '" ++ key ++ "' attempts to supply or alter immutable " ++
    "body content — bodies are immutable and lifecycle endpoints mutate " ++
    "registry state only (RFC-ACDP-0013 §6 step 2)")

def unknownMember (key : String) : RequestError :=
  .acdp (.schemaViolation ("lifecycle request has unknown member '" ++ key ++
    "' — the request body is a closed object with exactly one member, 'event' (RFC-ACDP-0013 §6)"))

def checkKeys : List String → Except RequestError Unit
  | [] => .ok ()
  | key :: rest =>
    if key = "event" then checkKeys rest
    else if key ∈ bodyFieldNames then .error (immutableMember key)
    else .error (unknownMember key)

def parseEvent (env : Env) (members : List (String × Json)) : Except AcdpError (LifecycleEvent × Json) :=
  match members.lookup "event" with
  | none => .error (.schemaViolation
      "lifecycle request is missing the required 'event' member (RFC-ACDP-0013 §6)")
  | some rawEvent => do
    let event ← LifecycleEvent.fromValue env rawEvent
    return (event, rawEvent)

def parseLifecycleRequest (env : Env) (raw : Json) : Except RequestError (LifecycleEvent × Json) :=
  match raw.asObject with
  | none => .error (.acdp (.schemaViolation "lifecycle request body must be a JSON object"))
  | some members => do
    checkKeys (members.map Prod.fst)
    (parseEvent env members).mapError .acdp

section Loop

def rejection (key : String) : RequestError :=
  if key ∈ bodyFieldNames then immutableMember key else unknownMember key

/-- The member that decides: the first one other than `event`. -/
def offender (keys : List String) : Option String := keys.find? (fun key => decide (key ≠ "event"))

theorem checkKeys_eq (keys : List String) :
    checkKeys keys = match offender keys with
      | none => .ok ()
      | some key => .error (rejection key) := by
  induction keys with
  | nil => rfl
  | cons key rest ih =>
    rw [checkKeys, offender, List.find?_cons]
    by_cases hevent : key = "event"
    · rw [if_pos hevent, decide_eq_false (not_not.mpr hevent)]
      exact ih
    · rw [if_neg hevent, decide_eq_true hevent]
      dsimp only
      rw [rejection]
      split
      · rfl
      · rfl

theorem offender_eq_none_iff (keys : List String) : offender keys = none ↔ ∀ key ∈ keys, key = "event" := by
  simp [offender]

theorem offender_some (keys : List String) (key : String) (h : offender keys = some key) :
    key ∈ keys ∧ key ≠ "event" := by
  refine ⟨List.mem_of_find?_eq_some h, ?_⟩
  simpa using List.find?_some h

theorem offender_cons (key : String) (rest : List String) (h : key ≠ "event") :
    offender (key :: rest) = some key := by
  rw [offender, List.find?_cons, decide_eq_true h]

theorem rejection_isImmutableField (key : String) :
    (rejection key).isImmutableField = decide (key ∈ bodyFieldNames) := by
  rw [rejection]
  split
  · next h =>
    rw [decide_eq_true h]
    rfl
  · next h =>
    rw [decide_eq_false h]
    rfl

theorem immutableMember_injective (a b : String) (h : immutableMember a = immutableMember b) : a = b := by
  simpa [immutableMember] using h

theorem unknownMember_injective (a b : String) (h : unknownMember a = unknownMember b) : a = b := by
  simpa [unknownMember] using h

theorem rejection_injective (a b : String) (h : rejection a = rejection b) : a = b := by
  rw [rejection, rejection] at h
  by_cases ha : a ∈ bodyFieldNames
  · by_cases hb : b ∈ bodyFieldNames
    · rw [if_pos ha, if_pos hb] at h
      exact immutableMember_injective a b h
    · rw [if_pos ha, if_neg hb] at h
      cases h
  · by_cases hb : b ∈ bodyFieldNames
    · rw [if_neg ha, if_pos hb] at h
      cases h
    · rw [if_neg ha, if_neg hb] at h
      exact unknownMember_injective a b h

end Loop

section Envelope

variable (env : Env) (members : List (String × Json))

def HasBodyField : Prop := ∃ key ∈ members.map Prod.fst, key ∈ bodyFieldNames

def HasUnknown : Prop := ∃ key ∈ members.map Prod.fst, key ≠ "event" ∧ key ∉ bodyFieldNames

def category (result : Except RequestError (LifecycleEvent × Json)) :
    Except Bool (LifecycleEvent × Json) :=
  result.mapError RequestError.isImmutableField

structure CategoryWins : Prop where
  immutable : HasBodyField members → category (parseLifecycleRequest env (.obj members)) = .error true
  unknown : ∀ key, parseLifecycleRequest env (.obj members) = .error (unknownMember key) →
    ¬ HasBodyField members

theorem event_not_bodyField : "event" ∉ bodyFieldNames := by decide

theorem parse_of_offender (key : String) (h : offender (members.map Prod.fst) = some key) :
    parseLifecycleRequest env (.obj members) = .error (rejection key) := by
  simp only [parseLifecycleRequest, Json.asObject, checkKeys_eq, h]
  rfl

theorem parse_of_no_offender (h : offender (members.map Prod.fst) = none) :
    parseLifecycleRequest env (.obj members) = (parseEvent env members).mapError .acdp := by
  simp only [parseLifecycleRequest, Json.asObject, checkKeys_eq, h]
  rfl

theorem category_of_offender (key : String) (h : offender (members.map Prod.fst) = some key) :
    category (parseLifecycleRequest env (.obj members)) = .error (decide (key ∈ bodyFieldNames)) := by
  rw [parse_of_offender env members key h, category, Except.mapError, rejection_isImmutableField]

theorem lookup_perm (ms members : List (String × Json)) (hperm : ms.Perm members)
    (hnodup : (members.map Prod.fst).Nodup) (k : String) : ms.lookup k = members.lookup k := by
  cases h : members.lookup k with
  | some v =>
    apply Json.lookup_of_mem _ _ _ ((hperm.map Prod.fst).nodup_iff.mpr hnodup)
    exact hperm.mem_iff.mpr (Json.mem_of_lookup _ _ _ h)
  | none =>
    rw [Json.lookup_eq_none_iff_not_mem] at h ⊢
    rwa [(hperm.map Prod.fst).mem_iff]

theorem parseEvent_perm (ms : List (String × Json)) (hperm : ms.Perm members)
    (hnodup : (members.map Prod.fst).Nodup) : parseEvent env ms = parseEvent env members := by
  rw [parseEvent, parseEvent, lookup_perm ms members hperm hnodup]

theorem category_eq_immutable_iff (h : HasBodyField members) :
    category (parseLifecycleRequest env (.obj members)) = .error true ↔
      ∃ key ∈ bodyFieldNames, offender (members.map Prod.fst) = some key := by
  obtain ⟨field, hmem, hfield⟩ := h
  cases hoff : offender (members.map Prod.fst) with
  | none =>
    obtain rfl := (offender_eq_none_iff _).mp hoff field hmem
    exact absurd hfield event_not_bodyField
  | some key =>
    rw [category_of_offender env members key hoff]
    simp

theorem exists_perm_offender (key : String) (hmem : key ∈ members.map Prod.fst) (hevent : key ≠ "event") :
    ∃ ms : List (String × Json), ms.Perm members ∧ offender (ms.map Prod.fst) = some key := by
  obtain ⟨m, hm, rfl⟩ := List.mem_map.mp hmem
  obtain ⟨before, after, rfl⟩ := List.append_of_mem hm
  refine ⟨m :: (before ++ after), List.perm_middle.symm, ?_⟩
  exact offender_cons _ _ hevent

theorem categoryWins_perm_iff (hnodup : (members.map Prod.fst).Nodup) :
    (∀ ms : List (String × Json), ms.Perm members → CategoryWins env ms ∧
        category (parseLifecycleRequest env (.obj ms)) =
          category (parseLifecycleRequest env (.obj members))) ↔
      ¬ (HasBodyField members ∧ HasUnknown members) := by
  constructor
  · rintro h ⟨⟨field, hmem, hfield⟩, key, hkey, hevent, hother⟩
    obtain ⟨ms, hperm, hoff⟩ := exists_perm_offender members key hkey hevent
    refine (h ms hperm).1.unknown key ?_ ⟨field, (hperm.map Prod.fst).mem_iff.mpr hmem, hfield⟩
    rw [parse_of_offender env ms key hoff, rejection, if_neg hother]
  · intro h ms hperm
    have hkeys (key : String) : key ∈ ms.map Prod.fst ↔ key ∈ members.map Prod.fst :=
      (hperm.map Prod.fst).mem_iff
    cases hoff : offender (members.map Prod.fst) with
    | none =>
      have hall := (offender_eq_none_iff _).mp hoff
      have hnone : offender (ms.map Prod.fst) = none :=
        (offender_eq_none_iff _).mpr (fun key hkey => hall key ((hkeys key).mp hkey))
      have hbody : ¬ HasBodyField ms := by
        rintro ⟨field, hmem, hfield⟩
        obtain rfl := hall field ((hkeys field).mp hmem)
        exact event_not_bodyField hfield
      rw [parse_of_no_offender env ms hnone, parse_of_no_offender env members hoff,
        parseEvent_perm env members ms hperm hnodup]
      exact ⟨⟨fun hb => absurd hb hbody, fun _ _ => hbody⟩, rfl⟩
    | some key =>
      obtain ⟨hmem, hevent⟩ := offender_some _ _ hoff
      cases hms : offender (ms.map Prod.fst) with
      | none => exact absurd ((offender_eq_none_iff _).mp hms key ((hkeys key).mpr hmem)) hevent
      | some key' =>
        obtain ⟨hmem', hevent'⟩ := offender_some _ _ hms
        -- both deciding members are of the one kind that the envelope has
        have hkind : key' ∈ bodyFieldNames ↔ key ∈ bodyFieldNames := by
          constructor
          · intro hfield
            by_contra hother
            exact h ⟨⟨key', (hkeys key').mp hmem', hfield⟩, key, hmem, hevent, hother⟩
          · intro hfield
            by_contra hother
            exact h ⟨⟨key, hmem, hfield⟩, key', (hkeys key').mp hmem', hevent', hother⟩
        rw [category_of_offender env ms key' hms, category_of_offender env members key hoff,
          decide_eq_decide.mpr hkind]
        refine ⟨⟨?_, ?_⟩, rfl⟩
        · rintro ⟨field, hf, hfield⟩
          rw [category_of_offender env ms key' hms]
          by_cases hother : key' ∈ bodyFieldNames
          · rw [decide_eq_true hother]
          · exact absurd ⟨⟨field, (hkeys field).mp hf, hfield⟩, key', (hkeys key').mp hmem',
              hevent', hother⟩ h
        · intro k hk
          rw [parse_of_offender env ms key' hms] at hk
          rintro ⟨field, hf, hfield⟩
          refine h ⟨⟨field, (hkeys field).mp hf, hfield⟩, key', (hkeys key').mp hmem', hevent', ?_⟩
          intro hbody
          rw [rejection, if_pos hbody] at hk
          cases hk

theorem parse_perm_iff (hnodup : (members.map Prod.fst).Nodup) :
    (∀ ms : List (String × Json), ms.Perm members →
        parseLifecycleRequest env (.obj ms) = parseLifecycleRequest env (.obj members)) ↔
      ∀ a ∈ members.map Prod.fst, ∀ b ∈ members.map Prod.fst, a ≠ "event" → b ≠ "event" → a = b := by
  constructor
  · intro h a ha b hb hane hbne
    obtain ⟨as, haperm, haoff⟩ := exists_perm_offender members a ha hane
    obtain ⟨bs, hbperm, hboff⟩ := exists_perm_offender members b hb hbne
    have heq := (h as haperm).trans (h bs hbperm).symm
    rw [parse_of_offender env as a haoff, parse_of_offender env bs b hboff] at heq
    exact rejection_injective a b (Except.error.inj heq)
  · intro h ms hperm
    have hkeys (key : String) : key ∈ ms.map Prod.fst ↔ key ∈ members.map Prod.fst :=
      (hperm.map Prod.fst).mem_iff
    cases hms : offender (ms.map Prod.fst) with
    | none =>
      have hall := (offender_eq_none_iff _).mp hms
      have hnone : offender (members.map Prod.fst) = none :=
        (offender_eq_none_iff _).mpr (fun key hkey => hall key ((hkeys key).mpr hkey))
      rw [parse_of_no_offender env ms hms, parse_of_no_offender env members hnone,
        parseEvent_perm env members ms hperm hnodup]
    | some a =>
      obtain ⟨hmem, hane⟩ := offender_some _ _ hms
      cases hoff : offender (members.map Prod.fst) with
      | none => exact absurd ((offender_eq_none_iff _).mp hoff a ((hkeys a).mp hmem)) hane
      | some b =>
        obtain ⟨hmem', hbne⟩ := offender_some _ _ hoff
        obtain rfl := h a ((hkeys a).mp hmem) b hmem' hane hbne
        rw [parse_of_offender env ms a hms, parse_of_offender env members a hoff]

/-- When the category error wins, when the whole result is free of the order, and which member decides. -/
theorem category_error_wins_iff (hnodup : (members.map Prod.fst).Nodup) :
    ((∀ ms : List (String × Json), ms.Perm members → CategoryWins env ms ∧
          category (parseLifecycleRequest env (.obj ms)) =
            category (parseLifecycleRequest env (.obj members))) ↔
        ¬ (HasBodyField members ∧ HasUnknown members)) ∧
      ((∀ ms : List (String × Json), ms.Perm members →
          parseLifecycleRequest env (.obj ms) = parseLifecycleRequest env (.obj members)) ↔
        ∀ a ∈ members.map Prod.fst, ∀ b ∈ members.map Prod.fst, a ≠ "event" → b ≠ "event" → a = b) ∧
      (HasBodyField members →
        (category (parseLifecycleRequest env (.obj members)) = .error true ↔
          ∃ key ∈ bodyFieldNames, offender (members.map Prod.fst) = some key)) :=
  ⟨categoryWins_perm_iff env members hnodup, parse_perm_iff env members hnodup,
    category_eq_immutable_iff env members⟩

end Envelope

def noteBeforeBody : List (String × Json) := [("note", .str "hello"), ("body", .obj [])]

theorem note_hides_body :
    HasBodyField noteBeforeBody ∧
      parseLifecycleRequest plainEnv (.obj noteBeforeBody) = .error (unknownMember "note") ∧
      parseLifecycleRequest plainEnv (.obj noteBeforeBody.reverse) = .error (immutableMember "body") :=
  ⟨⟨"body", by decide, by decide⟩, rfl, rfl⟩

theorem body_before_note_wins :
    category (parseLifecycleRequest plainEnv (.obj noteBeforeBody.reverse)) = .error true ↔
      ∃ key ∈ bodyFieldNames, offender (noteBeforeBody.reverse.map Prod.fst) = some key :=
  (category_error_wins_iff plainEnv noteBeforeBody.reverse (by decide)).2.2 ⟨"body", by decide, by decide⟩

end Acdp.Registry.Lifecycle
