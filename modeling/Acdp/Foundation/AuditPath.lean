import Mathlib.Data.List.Basic
import Mathlib.Logic.Function.Basic

namespace Acdp.Foundation.AuditPath

inductive Side where
  | left
  | right
deriving DecidableEq, Repr

variable {δ : Type}

def attach (node : δ → δ → δ) : Side → δ → δ → δ
  | .left, p, r => node p r
  | .right, p, r => node r p

def climb (node : δ → δ → δ) (r : δ) : List Side → List δ → Option δ
  | [], [] => some r
  | s :: ss, p :: ps => climb node (attach node s p r) ss ps
  | [], _ :: _ => none
  | _ :: _, [] => none

def climbLeft (node : δ → δ → δ) (r : δ) : List Side → List δ → Option δ
  | [], [] => some r
  | .left :: ss, p :: ps => climbLeft node (node p r) ss ps
  | .right :: ss, _ :: ps => climbLeft node r ss ps
  | [], _ :: _ => none
  | _ :: _, [] => none

theorem attach_injective (node : δ → δ → δ) (hnode : Function.Injective2 node) (s : Side)
    {p p' r r' : δ} (h : attach node s p r = attach node s p' r') : p = p' ∧ r = r' := by
  cases s with
  | left => exact hnode h
  | right => exact (hnode h).symm

theorem climb_injective (node : δ → δ → δ) (hnode : Function.Injective2 node)
    (ss : List Side) (ps ps' : List δ) (r r' t : δ)
    (h : climb node r ss ps = some t) (h' : climb node r' ss ps' = some t) : r = r' ∧ ps = ps' := by
  induction ss generalizing r r' ps ps' with
  | nil =>
    cases ps <;> cases ps' <;> simp_all [climb]
  | cons s ss ih =>
    cases ps with
    | nil => simp [climb] at h
    | cons p ps =>
      cases ps' with
      | nil => simp [climb] at h'
      | cons p' ps' =>
        obtain ⟨ha, rfl⟩ := ih ps ps' _ _ h h'
        obtain ⟨rfl, rfl⟩ := attach_injective node hnode s ha
        exact ⟨rfl, rfl⟩

theorem climb_snoc (node : δ → δ → δ) (r t p : δ) (ss : List Side) (ps : List δ) (s : Side)
    (h : climb node r ss ps = some t) :
    climb node r (ss ++ [s]) (ps ++ [p]) = some (attach node s p t) := by
  induction ss generalizing r ps with
  | nil =>
    cases ps with
    | nil => simp only [climb, Option.some.injEq] at h; simp [climb, h]
    | cons q ps => simp [climb] at h
  | cons u ss ih =>
    cases ps with
    | nil => simp [climb] at h
    | cons q ps => exact ih (attach node u q r) ps h

theorem climbLeft_snoc_left (node : δ → δ → δ) (r t p : δ) (ss : List Side) (ps : List δ)
    (h : climbLeft node r ss ps = some t) :
    climbLeft node r (ss ++ [.left]) (ps ++ [p]) = some (node p t) := by
  induction ss generalizing r ps with
  | nil =>
    cases ps with
    | nil => simp only [climbLeft, Option.some.injEq] at h; simp [climbLeft, h]
    | cons q ps => simp [climbLeft] at h
  | cons u ss ih =>
    cases ps with
    | nil => cases u <;> simp [climbLeft] at h
    | cons q ps => cases u <;> exact ih _ ps h

theorem climbLeft_snoc_right (node : δ → δ → δ) (r t p : δ) (ss : List Side) (ps : List δ)
    (h : climbLeft node r ss ps = some t) :
    climbLeft node r (ss ++ [.right]) (ps ++ [p]) = some t := by
  induction ss generalizing r ps with
  | nil =>
    cases ps with
    | nil => simpa [climbLeft] using h
    | cons q ps => simp [climbLeft] at h
  | cons u ss ih =>
    cases ps with
    | nil => cases u <;> simp [climbLeft] at h
    | cons q ps => cases u <;> exact ih _ ps h

end Acdp.Foundation.AuditPath
