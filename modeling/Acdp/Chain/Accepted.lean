import Acdp.Chain.Run

namespace Acdp.Chain

open Acdp.Types
open Acdp.Foundation.Entries
open Std (ExtTreeMap)

structure Evidence.Accepted (env : Env) (evidence : Evidence) (parsed : Parsed) : Prop where
  contexts : parseEntries (parseContextEntry env) evidence.contexts = .ok parsed.contexts
  snapshots : parseEntries (parseSnapshots env) (evidence.didDocuments.getD ∅) = .ok parsed.snapshots
  discovery : parseEntries (parseDiscovery env) (evidence.revocationDiscovery.getD ∅) = .ok parsed.discovery
  checkpoints : (evidence.checkpoints.getD []).mapM (parseCheckpoint env) = .ok parsed.checkpoints
  omitted : parsed.omitted = collectOmitted (evidence.omitted.getD [])

theorem Evidence.parse_ok (env : Env) (evidence : Evidence) (parsed : Parsed)
    (h : evidence.parse env = .ok parsed) : evidence.Accepted env parsed := by
  unfold Evidence.parse at h
  obtain ⟨-, -, h⟩ := bind_ok _ _ _ h
  obtain ⟨contexts, hcontexts, h⟩ := bind_ok _ _ _ h
  obtain ⟨snapshots, hsnapshots, h⟩ := bind_ok _ _ _ h
  obtain ⟨discovery, hdiscovery, h⟩ := bind_ok _ _ _ h
  obtain ⟨checkpoints, hcheckpoints, h⟩ := bind_ok _ _ _ h
  obtain ⟨-, -, h⟩ := bind_ok _ _ _ h
  obtain rfl := Except.ok.inj h
  exact ⟨hcontexts, hsnapshots, hdiscovery, hcheckpoints, rfl⟩

theorem ts_ok (env : Env) (raw what : String) (time : DateTime) (h : ts env raw what = .ok time) :
    parseTs env raw = some time := by
  unfold ts at h
  split at h
  · rename_i hparse
    rw [hparse, Except.ok.inj h]
  · cases h

theorem member_ok {α : Type} (key what : String) (r : Except AcdpError α) (a : α)
    (h : member key what r = .ok a) : r = .ok a := by
  cases r with
  | error e => cases h
  | ok b => rw [Except.ok.inj h]

theorem map_pair_ok {α : Type} (r : Except AcdpError α) (v : Json) (p : α × Json)
    (h : r.map (·, v) = .ok p) : r = .ok p.1 := by
  cases r with
  | error e => cases h
  | ok a => rw [← Except.ok.inj h]

structure ContextAccepted (env : Env) (key : String) (ce : ContextEvidence) (pc : ParsedContext) : Prop where
  rawBody : pc.rawBody = ce.body
  body : parseBody env key ce.body = .ok pc.body
  receipt : ce.registryReceipt.mapM (parseReceipt env key) = .ok pc.receipt
  events : List.Forall₂ (fun v p =>
    member key "lifecycle_events" ((LifecycleEvent.fromValue env v).map (·, v)) = .ok p)
    (ce.lifecycleEvents.getD []) pc.events
  eventReceipts : List.Forall₂ (fun v p =>
    member key "event_receipts" ((EventReceipt.fromValue env v).map (·, v)) = .ok p)
    (ce.eventReceipts.getD []) pc.eventReceipts
  logInclusion : ce.logInclusion.mapM (fun v =>
    member key "log_inclusion" ((LogInclusion.fromValue env v).map (·, v))) = .ok pc.logInclusion

theorem parseEvents_ok (env : Env) (key : String) (events : Option (List Json))
    (parsed : List (LifecycleEvent × Json)) (h : parseEvents env key events = .ok parsed) :
    List.Forall₂
      (fun v p => member key "lifecycle_events" ((LifecycleEvent.fromValue env v).map (·, v)) = .ok p)
      (events.getD []) parsed := by
  unfold parseEvents at h
  split at h
  · obtain rfl := Except.ok.inj h
    exact .nil
  · cases h
  · exact forall₂_of_mapM_ok _ _ _ h

theorem parseEventReceipts_ok (env : Env) (key : String) (events receipts : Option (List Json))
    (parsed : List (EventReceipt × Json)) (h : parseEventReceipts env key events receipts = .ok parsed) :
    List.Forall₂ (fun v p => member key "event_receipts" ((EventReceipt.fromValue env v).map (·, v)) = .ok p)
      (receipts.getD []) parsed := by
  unfold parseEventReceipts at h
  split at h
  · obtain rfl := Except.ok.inj h
    exact .nil
  · split_ifs at h
    exact forall₂_of_mapM_ok _ _ _ h

theorem parseContextEntry_ok (env : Env) (key : String) (ce : ContextEvidence) (pc : ParsedContext)
    (h : parseContextEntry env key ce = .ok pc) : ContextAccepted env key ce pc := by
  unfold parseContextEntry at h
  split_ifs at h
  unfold parseContext at h
  obtain ⟨body, hbody, h⟩ := bind_ok _ _ _ h
  obtain ⟨receipt, hreceipt, h⟩ := bind_ok _ _ _ h
  obtain ⟨events, hevents, h⟩ := bind_ok _ _ _ h
  obtain ⟨eventReceipts, hreceipts, h⟩ := bind_ok _ _ _ h
  obtain ⟨logInclusion, hlog, h⟩ := bind_ok _ _ _ h
  obtain rfl := Except.ok.inj h
  exact ⟨rfl, hbody, hreceipt, parseEvents_ok env key _ _ hevents,
    parseEventReceipts_ok env key _ _ _ hreceipts, hlog⟩

theorem parseRecord_completedAt (env : Env) (r : DiscoveryRecord) (d : ParsedDiscovery)
    (h : parseRecord env r = .ok d) : parseTs env r.completedAt = some d.completedAt := by
  unfold parseRecord at h
  split_ifs at h
  obtain ⟨time, htime, h⟩ := bind_ok _ _ _ h
  obtain rfl := Except.ok.inj h
  exact ts_ok env _ _ _ htime

theorem parseDiscovery_forall₂ (env : Env) (records : ExtTreeMap String (List DiscoveryRecord))
    (discovery : ExtTreeMap String (List ParsedDiscovery))
    (h : parseEntries (parseDiscovery env) records = .ok discovery) (did : String) :
    List.Forall₂ (fun r d => parseRecord env r = .ok d) (records.getD did []) (discovery.getD did []) := by
  rw [ExtTreeMap.getD_eq_getD_getElem?, ExtTreeMap.getD_eq_getD_getElem?]
  cases hrecords : records[did]? with
  | none =>
    rw [(parseEntries_none _ _ _ h did).mpr hrecords]
    exact .nil
  | some list =>
    obtain ⟨parsed, hparsed, hlist⟩ := parseEntries_target _ _ _ h did list hrecords
    rw [hparsed]
    unfold parseDiscovery at hlist
    split_ifs at hlist
    exact forall₂_of_mapM_ok _ _ _ hlist

theorem parseCheckpoint_cosignatures (env : Env) (c : CheckpointEvidence) (p : ParsedCheckpoint)
    (h : parseCheckpoint env c = .ok p) :
    List.Forall₂ (fun v c => parseCosignature env v = .ok c) (c.cosignatures.getD []) p.cosignatures := by
  unfold parseCheckpoint at h
  split at h
  · cases h
  · obtain ⟨cosignatures, hcosignatures, h⟩ := bind_ok _ _ _ h
    obtain rfl := Except.ok.inj h
    exact forall₂_of_mapM_ok _ _ _ hcosignatures

theorem flatMap_cosignatures (env : Env) (checkpoints : List CheckpointEvidence)
    (parsed : List ParsedCheckpoint)
    (h : List.Forall₂ (fun c p => parseCheckpoint env c = .ok p) checkpoints parsed) :
    List.Forall₂ (fun v c => parseCosignature env v = .ok c) (checkpoints.flatMap (·.cosignatures.getD []))
      (parsed.flatMap (·.cosignatures)) := by
  induction h with
  | nil => exact .nil
  | cons hcp _ ih =>
    rw [List.flatMap_cons, List.flatMap_cons]
    exact List.rel_append (parseCheckpoint_cosignatures env _ _ hcp) ih

theorem parseCosignature_ok (env : Env) (v : Json) (c : LogCosignature × Json)
    (h : parseCosignature env v = .ok c) : LogCosignature.fromValue env v = .ok c.1 := by
  unfold parseCosignature at h
  split at h
  · cases h
  · rename_i hvalue
    rw [hvalue, ← Except.ok.inj h]

theorem verifyChain_ok (env : Env) (jcs : JcsDigest) (keyless : Bool) (roots : List String)
    (evidence : Evidence) (options : Options) (v : ChainVerdict)
    (h : verifyChain env jcs keyless roots evidence options = .ok v) :
    ∃ parsed, options.check env keyless = .ok () ∧ evidence.parse env = .ok parsed ∧
      v = (engineOf env keyless parsed options).verdict jcs evidence options
        (walk roots parsed options.limits (fun _ => false)) := by
  unfold verifyChain verifyChainWithBudget at h
  obtain ⟨⟨⟩, hcheck, h⟩ := bind_ok _ _ _ h
  obtain ⟨-, -, h⟩ := bind_ok _ _ _ h
  obtain ⟨parsed, hparsed, h⟩ := bind_ok _ _ _ h
  exact ⟨parsed, hcheck, hparsed, (Except.ok.inj h).symm⟩

end Acdp.Chain
