import Mathlib.Tactic.Common
import ViewAssembly.Value

/-!
# The weight of a value

Objects weigh something, and so do their entries. A change that makes every value lighter which it
does not leave as it is cannot be undone by another one of that kind: two of them leave a value as
it is exactly if each of them does (`Lightens.comp_eq_self_iff`).
-/

namespace ViewAssembly.Value

mutual

/-- The number of objects in a value and of their entries. -/
def weight : Value → Nat
  | arr vs => weightElems vs
  | obj fs => weightFields fs + 1
  | _      => 0

def weightElems : List Value → Nat
  | []      => 0
  | v :: vs => v.weight + weightElems vs

def weightFields : List (String × Value) → Nat
  | []           => 0
  | (_, v) :: fs => v.weight + 1 + weightFields fs

end

/-! ### One step -/

/-- Is something left as it is if it is settled, and made lighter if not? -/
def Lightened {α : Type} (weigh : α → Nat) (isSettled : Bool) (before after : α) : Prop :=
  if isSettled then after = before else weigh after < weigh before

namespace Lightened

variable {p q : Bool} {v v' : Value} {vs vs' : List Value} {fs fs' : Entries Value}

lemma refl {α : Type} (weigh : α → Nat) (x : α) : Lightened weigh true x x := rfl

lemma of_lt {α : Type} {weigh : α → Nat} {x y : α} (h : weigh y < weigh x) :
    Lightened weigh false x y := h

lemma weight_le {α : Type} {weigh : α → Nat} {x y : α} (h : Lightened weigh p x y) :
    weigh y ≤ weigh x := by
  cases p with
  | true => exact Nat.le_of_eq (congrArg weigh h)
  | false => exact Nat.le_of_lt h

lemma eq_self_iff {α : Type} {weigh : α → Nat} {x y : α} (h : Lightened weigh p x y) :
    y = x ↔ p = true := by
  cases p with
  | true => exact iff_of_true h rfl
  | false =>
    refine iff_of_false (fun heq => ?_) Bool.false_ne_true
    subst heq
    exact Nat.lt_irrefl _ h

lemma arr (h : Lightened weightElems p vs vs') : Lightened weight p (arr vs) (arr vs') := by
  cases p with
  | true => exact congrArg Value.arr h
  | false => exact h

lemma obj (h : Lightened weightFields p fs fs') : Lightened weight p (obj fs) (obj fs') := by
  cases p with
  | true => exact congrArg Value.obj h
  | false => exact Nat.succ_lt_succ h

/-- A list is left as it is if its first element and all others are. -/
lemma elems (hv : Lightened weight p v v') (hvs : Lightened weightElems q vs vs') :
    Lightened weightElems (p && q) (v :: vs) (v' :: vs') := by
  have hle := hv.weight_le
  have hle' := hvs.weight_le
  cases p <;> cases q
  case true.true => exact congrArg₂ List.cons hv hvs
  case true.false => exact Nat.add_lt_add_of_le_of_lt hle hvs
  case false.true => exact Nat.add_lt_add_of_lt_of_le hv hle'
  case false.false => exact Nat.add_lt_add_of_lt_of_le hv hle'

/-- Entries are left as they are if the first one and all others are. -/
lemma fields (k : String) (hv : Lightened weight p v v') (hfs : Lightened weightFields q fs fs') :
    Lightened weightFields (p && q) ((k, v) :: fs) ((k, v') :: fs') := by
  have hle := Nat.succ_le_succ hv.weight_le
  have hle' := hfs.weight_le
  cases p <;> cases q
  case true.true => exact congrArg₂ List.cons (congrArg (Prod.mk k) hv) hfs
  case true.false => exact Nat.add_lt_add_of_le_of_lt hle hfs
  case false.true => exact Nat.add_lt_add_of_lt_of_le (Nat.succ_lt_succ hv) hle'
  case false.false => exact Nat.add_lt_add_of_lt_of_le (Nat.succ_lt_succ hv) hle'

end Lightened

/-! ### Two changes after one another -/

/-- A change that leaves settled values as they are and makes all others lighter. -/
def Lightens (change : Value → Value) (isSettled : Value → Bool) : Prop :=
  ∀ v, Lightened weight (isSettled v) v (change v)

/-- Two changes leave a value as it is exactly if each of them does. -/
lemma Lightens.comp_eq_self_iff {f g : Value → Value} {p q : Value → Bool} {v : Value}
    (hf : Lightens f p) (hg : Lightens g q) : g (f v) = v ↔ p v = true ∧ q v = true := by
  constructor
  · intro h
    have hfv : f v = v := by
      by_contra hne
      -- what was made lighter once is not made heavier again
      have hlt := hf v
      rw [Lightened, if_neg (mt (hf v).eq_self_iff.mpr hne)] at hlt
      have hle := (hg (f v)).weight_le
      rw [h] at hle
      exact Nat.not_lt.mpr hle hlt
    rw [hfv] at h
    exact ⟨(hf v).eq_self_iff.mp hfv, (hg v).eq_self_iff.mp h⟩
  · rintro ⟨hp, hq⟩
    rw [(hf v).eq_self_iff.mpr hp, (hg v).eq_self_iff.mpr hq]

end ViewAssembly.Value
