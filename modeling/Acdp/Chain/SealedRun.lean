import Acdp.Chain.SealedStages
import Acdp.Chain.Run

namespace Acdp.Chain

open Acdp.Types
open Acdp.Crypto
open Std (ExtTreeMap ExtTreeSet)

namespace Engine

def keySought (e : Engine) (key : String) (pc : ParsedContext) (recomputed : Option ContentHash)
    (fingerprint : Option String) (t : DateTime) : Option String := do
  let (r, raw) ← pc.receipt
  let hash ← e.receiptChecked key pc recomputed fingerprint r raw
  if e.keys.check e.env r.signature hash r.registryDid (some t) = .error .noEvidence then some r.registryDid
  else none

theorem receipt_reason (e : Engine) (key : String) (pc : ParsedContext) (recomputed : Option ContentHash)
    (fingerprint : Option String) (t : DateTime) :
    (e.receipt key pc recomputed fingerprint (.asOf t)).1.reason =
      ((e.keySought key pc recomputed fingerprint t).filter (e.keys.onlyAfter · t)).map
        (fun _ => reasonNoEvidenceAtAsOf) := by
  unfold receipt keySought
  cases pc.receipt with
  | none => rfl
  | some p =>
    simp only [Option.bind_eq_bind, Option.bind_some]
    cases e.receiptChecked key pc recomputed fingerprint p.1 p.2 with
    | none => rfl
    | some hash =>
      dsimp only [PassAt.t, Option.bind_some]
      cases e.keys.check e.env p.1.signature hash p.1.registryDid (some t) with
      | ok c => by_cases hvalid : c.valid = true <;> simp [hvalid, receiptInvalid]
      | error m =>
        cases m with
        | malformed => rfl
        | noEvidence =>
          by_cases honly : e.keys.onlyAfter p.1.registryDid t = true <;>
            simp [honly, receiptInvalid, PassAt.noEvidenceReason, PassAt.isAsOf, Option.filter]

theorem receipt_of_keySought (e : Engine) (key : String) (pc : ParsedContext)
    (recomputed : Option ContentHash) (fingerprint : Option String) (t : DateTime) (did : String)
    (h : e.keySought key pc recomputed fingerprint t = some did) :
    (e.receipt key pc recomputed fingerprint (.asOf t)).2 = none := by
  unfold keySought at h
  unfold receipt
  simp only [Option.bind_eq_bind, Option.bind_eq_some_iff] at h
  obtain ⟨p, hp, hash, hhash, h⟩ := h
  split_ifs at h with hcheck
  rw [hp]
  dsimp only [PassAt.t]
  rw [hhash]
  dsimp only
  rw [hcheck]
  dsimp only
  split <;> rfl

def keySoughtBy (e : Engine) (key : String) (pc : ParsedContext) (t : DateTime) : Option String :=
  e.keySought key pc (computeContentHash e.env pc.rawBody).toOption
    ((e.locate pc.body (.asOf t) (e.attested pc.body (.asOf t))).toOption.bind (·.fingerprint)) t

theorem basic_reason (e : Engine) (key : String) (pc : ParsedContext) (t : DateTime) :
    (e.basic key pc (.asOf t)).receiptStage.reason =
      ((e.keySoughtBy key pc t).filter (e.keys.onlyAfter · t)).map (fun _ => reasonNoEvidenceAtAsOf) :=
  e.receipt_reason key pc _ _ t

theorem basic_present_of_keySoughtBy (e : Engine) (key : String) (pc : ParsedContext) (t : DateTime)
    (did : String) (h : e.keySoughtBy key pc t = some did) :
    (e.basic key pc (.asOf t)).presence.value = .present := by
  have hnone := e.receipt_of_keySought key pc _ _ t did h
  change (e.presence (e.receipt key pc _ _ (.asOf t)).2 (.asOf t)).1.value = .present
  rw [hnone]
  rfl

theorem full_receiptStage (e : Engine) (pc : ParsedContext) (b : Basic) (stage : ReceiptStage)
    (revocations : List AppliedRevocation) (pass : PassAt) :
    (e.full pc { b with receiptStage := stage } revocations pass).1 = (e.full pc b revocations pass).1 ↔
      (b.presence.value = .present → stage = b.receiptStage) := by
  by_cases hpresent : b.presence.value = .present
  · constructor
    · intro h _
      have hstage := congrArg (fun p : Pass => p.stages.registryReceipt) h
      simp only [full, hpresent, ne_eq, not_true_eq_false, if_false, finish] at hstage
      exact Option.some.inj hstage
    · intro h
      rw [h hpresent]
  · simp [full, hpresent]

theorem presence_latest (e : Engine) (receipt : Option VerifiedReceipt) :
    (e.presence receipt .latest).1.value = .present := by
  cases receipt <;> rfl

theorem full_presence (e : Engine) (pc : ParsedContext) (b : Basic) (revocations : List AppliedRevocation)
    (pass : PassAt) : (e.full pc b revocations pass).1.stages.presence = b.presence := by
  unfold full
  split <;> rfl

theorem node_derivedFrom (e : Engine) (cycles : ExtTreeSet String) (asOf : Option DateTime) (p : String × ℕ) :
    (e.node cycles asOf p).1.derivedFrom =
      if p.1 ∈ cycles then none else (e.parsed.contexts[p.1]?).map (·.body.derivedFrom) := by
  by_cases hcycle : p.1 ∈ cycles
  · cases hpc : e.parsed.contexts[p.1]? <;> simp [node, passAt, hcycle, hpc, bare, finish, Stages.bare]
  · cases hpc : e.parsed.contexts[p.1]? with
    | none => simp [node, hpc, hcycle]
    | some pc =>
      have hpresent : (e.basic p.1 pc .latest).presence.value = .present := e.presence_latest _
      simp [node, passAt, hcycle, hpc, full_presence, hpresent]

def projectedNode (e : Engine) (cycles : ExtTreeSet String) (t : DateTime) (p : String × ℕ) :
    NodeProjection where
  ctxId := p.1
  depth := p.2
  derivedFrom := if p.1 ∈ cycles then none else (e.parsed.contexts[p.1]?).map (·.body.derivedFrom)
  asOf := some (e.passAt cycles p.1 (.asOf t)).1

theorem project_node (e : Engine) (cycles : ExtTreeSet String) (t : DateTime) (p : String × ℕ) :
    (e.node cycles (some t) p).1.project = e.projectedNode cycles t p := by
  rw [Node.project, node_derivedFrom]
  rfl

theorem asOfProjection_verdict (jcs : JcsDigest) (e : Engine) (evidence : Evidence) (options : Options)
    (w : Walk) (t : DateTime) (ht : options.asOf = some t) :
    asOfProjection (e.verdict jcs evidence options w) = some {
      verdictVersion := Chain.verdictVersion
      roots := w.roots
      asOf := some (fmtTs e.env t)
      limits := options.limits
      requireAttestedEvents := options.requireAttestedEvents
      optionsDigest := options.pinned.bind (Pinned.digest jcs)
      complete := w.control.isNone
      control := w.control
      frontier := w.frontier
      nodes := w.depth.toList.map (e.projectedNode (cycleNodes w) t)
      chainAsOf := chainVerdict w.control.isNone
        (w.depth.toList.map (fun p => (e.passAt (cycleNodes w) p.1 (.asOf t)).1))
      taintedPathsAsOf := some (tainted (shortestPaths w)
        (w.depth.toList.map (fun p => (p.1, (e.passAt (cycleNodes w) p.1 (.asOf t)).1)))) } := by
  have hpasses : w.depth.toList.filterMap (fun p =>
        ((e.node (cycleNodes w) (some t) p).1.asOf).map ((e.node (cycleNodes w) (some t) p).1.ctxId, ·)) =
      w.depth.toList.map (fun p => (p.1, (e.passAt (cycleNodes w) p.1 (.asOf t)).1)) :=
    congrFun List.filterMap_eq_map _
  simp only [asOfProjection, verdict, ht, Option.map_some, reduceCtorEq, if_false, List.map_map,
    Option.isSome_some, if_true, List.filterMap_map, Function.comp_def, project_node, hpasses]

theorem asOfDigest_verdict (jcs : JcsDigest) (e : Engine) (evidence : Evidence)
    (options : Options) (w : Walk) : (e.verdict jcs evidence options w).asOfDigest =
      (asOfProjection (e.verdict jcs evidence options w)).map jcs.projection := rfl

end Engine

namespace Engine.Sealed

variable {t : DateTime} {e e' : Engine} {pc pc' : ParsedContext}

theorem keySought (h : Sealed t e e') (hc : ContextSealed e.requireAttestedEvents t pc pc') (key : String)
    (recomputed : Option ContentHash) (fingerprint : Option String) :
    e'.keySought key pc' recomputed fingerprint t = e.keySought key pc recomputed fingerprint t := by
  simp only [Engine.keySought, h.env, h.check, hc.receipt, h.receiptChecked hc]

theorem keySoughtBy (h : Sealed t e e') (key : String) (hpc : e.parsed.contexts[key]? = some pc)
    (hc : ContextSealed e.requireAttestedEvents t pc pc') :
    e'.keySoughtBy key pc' t = e.keySoughtBy key pc t := by
  rw [Engine.keySoughtBy, Engine.keySoughtBy, h.keySought hc, h.attested key hpc hc, hc.rawBody,
    hc.body, h.env, h.locate]

theorem basic_receiptStage (h : Sealed t e e') (key : String) (hpc : e.parsed.contexts[key]? = some pc)
    (hc : ContextSealed e.requireAttestedEvents t pc pc') :
    (e'.basic key pc' (.asOf t)).receiptStage = (e.basic key pc (.asOf t)).receiptStage ↔
      ∀ did, e.keySoughtBy key pc t = some did → e'.keys.onlyAfter did t = e.keys.onlyAfter did t := by
  have hrest : (e'.basic key pc' (.asOf t)).receiptStage.withoutReason =
      (e.basic key pc (.asOf t)).receiptStage.withoutReason :=
        congrArg Basic.receiptStage (h.basic key hpc hc)
  have hreason : (e'.basic key pc' (.asOf t)).receiptStage = (e.basic key pc (.asOf t)).receiptStage ↔
      (e'.basic key pc' (.asOf t)).receiptStage.reason = (e.basic key pc (.asOf t)).receiptStage.reason := by
    refine ⟨fun hs => by rw [hs], fun hs => ?_⟩
    have hput (s : ReceiptStage) : s = { s.withoutReason with reason := s.reason } := rfl
    rw [hput (e'.basic key pc' (.asOf t)).receiptStage, hrest, hs]
    rfl
  rw [hreason, basic_reason, basic_reason, h.keySoughtBy key hpc hc]
  cases e.keySoughtBy key pc t with
  | none => simp
  | some did =>
    cases he' : e'.keys.onlyAfter did t <;> cases he : e.keys.onlyAfter did t <;>
      simp [Option.filter, he, he']

theorem passAt (h : Sealed t e e') (cycles : ExtTreeSet String) (key : String)
    (habsent : e.parsed.contexts[key]? = none → e'.parsed.contexts[key]? = none) :
    (e'.passAt cycles key (.asOf t)).1 = (e.passAt cycles key (.asOf t)).1 ↔
      ∀ pc did, key ∉ cycles → e.parsed.contexts[key]? = some pc → e.keySoughtBy key pc t = some did →
        e'.keys.onlyAfter did t = e.keys.onlyAfter did t := by
  by_cases hcycle : key ∈ cycles
  · simp [Engine.passAt, hcycle]
  · cases hpc : e.parsed.contexts[key]? with
    | none => simp [Engine.passAt, hcycle, hpc, habsent hpc, Engine.missingPresence, h.omitted]
    | some pc =>
      obtain ⟨pc', hpc', hc⟩ := h.kept key pc hpc
      have hbasic := h.basic key hpc hc
      have hput : e'.basic key pc' (.asOf t) = { e.basic key pc (.asOf t) with
          receiptStage := (e'.basic key pc' (.asOf t)).receiptStage } := Basic.eq_of_withoutReason _ _ hbasic
      have hkeyless : ∀ a, (e'.basic key pc' (.asOf t)).keyless = some a →
          ∃ att, e.parsed.contexts[a.ctxId]? = some att := by
        rw [hput]
        exact e.basic_keyless_mem key pc (.asOf t)
      simp only [Engine.passAt, hcycle, hpc, hpc', if_false, h.appliedRevocations, h.full hc _ hkeyless]
      rw [hput, full_receiptStage, h.basic_receiptStage key hpc hc]
      constructor
      · intro hstage pc₁ did _ hpc₁ hsought
        obtain rfl := Option.some.inj hpc₁
        exact hstage (e.basic_present_of_keySoughtBy key pc t did hsought) did hsought
      · intro hall _ did hsought
        exact hall pc did not_false rfl hsought

theorem asOfProjection_iff (h : Sealed t e e') (jcs : JcsDigest) (evidence evidence' : Evidence)
    (options : Options) (ht : options.asOf = some t) (w : Walk)
    (habsent : ∀ k ∈ w.depth, e.parsed.contexts[k]? = none → e'.parsed.contexts[k]? = none) :
    asOfProjection (e'.verdict jcs evidence' options w) = asOfProjection (e.verdict jcs evidence options w) ↔
      ∀ k ∈ w.depth, ∀ pc did, k ∉ cycleNodes w → e.parsed.contexts[k]? = some pc →
        e.keySoughtBy k pc t = some did → e'.keys.onlyAfter did t = e.keys.onlyAfter did t := by
  have hmem (p : String × ℕ) (hp : p ∈ w.depth.toList) : p.1 ∈ w.depth := by
    rw [ExtTreeMap.mem_iff_isSome_getElem?, ExtTreeMap.mem_toList_iff_getElem?_eq_some.mp hp]
    rfl
  have hderived (k : String) (hk : k ∈ w.depth) :
      (e'.parsed.contexts[k]?).map (·.body.derivedFrom) =
      (e.parsed.contexts[k]?).map (·.body.derivedFrom) := by
    cases hpc : e.parsed.contexts[k]? with
    | none => rw [habsent k hk hpc]
    | some pc =>
      obtain ⟨pc', hpc', hc⟩ := h.kept k pc hpc
      rw [hpc', Option.map_some, Option.map_some, hc.body]
  rw [asOfProjection_verdict jcs e' evidence' options w t ht,
    asOfProjection_verdict jcs e evidence options w t ht]
  constructor
  · intro heq k hk
    have hnodes := congrArg (fun p : Option AsOfProjection => p.map (·.nodes)) heq
    simp only [Option.map_some, Option.some.injEq, List.map_inj_left] at hnodes
    obtain ⟨d, hd⟩ := Option.isSome_iff_exists.mp (ExtTreeMap.mem_iff_isSome_getElem?.mp hk)
    have hnode := congrArg NodeProjection.asOf
      (hnodes (k, d) (ExtTreeMap.mem_toList_iff_getElem?_eq_some.mpr hd))
    exact (h.passAt (cycleNodes w) k (habsent k hk)).mp (Option.some.inj hnode)
  · intro hall
    have hpass (p : String × ℕ) (hp : p ∈ w.depth.toList) :
        (e'.passAt (cycleNodes w) p.1 (.asOf t)).1 = (e.passAt (cycleNodes w) p.1 (.asOf t)).1 :=
      (h.passAt (cycleNodes w) p.1 (habsent p.1 (hmem p hp))).mpr (hall p.1 (hmem p hp))
    have hnodes : w.depth.toList.map (e'.projectedNode (cycleNodes w) t) =
        w.depth.toList.map (e.projectedNode (cycleNodes w) t) := by
      refine List.map_congr_left (fun p hp => ?_)
      rw [projectedNode, projectedNode, hpass p hp, hderived p.1 (hmem p hp)]
    have hpairs : w.depth.toList.map (fun p => (p.1, (e'.passAt (cycleNodes w) p.1 (.asOf t)).1)) =
        w.depth.toList.map (fun p => (p.1, (e.passAt (cycleNodes w) p.1 (.asOf t)).1)) :=
      List.map_congr_left (fun p hp => by rw [hpass p hp])
    rw [hnodes, hpairs, List.map_congr_left hpass, h.env]

end Engine.Sealed

end Acdp.Chain
