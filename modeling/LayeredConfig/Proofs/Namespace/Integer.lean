import LayeredConfig.Proofs.Text.Trim
import LayeredConfig.View
import Mathlib.Data.List.Induction
import Mathlib.Data.Nat.Digits.Defs

/-!
# Reading integers

The integer at a key is read leniently: what is no integer of 32 bits counts as absent. `Text.Denotes` says which texts
denote an integer at all, without a bound on the number of their digits, and `Scope.ReadsInt` what a reader may rely on.

* **`Text.denotes_iff`** — a text denotes what is read off it once its ends are trimmed.
* **`readInt32_of_denotes`**, **`readInt32_of_overlong`**, **`readInt32_of_not_denotes`** — the three ways in which
  reading goes. The digits are counted before their number is looked at.
* **`Scope.readsInt_iff`** — reading is lenient up to 4300 digits and fails beyond, whatever the number is.
* **`Scope.not_readsInt`** — so there is a zero that cannot be read.
-/

namespace LayeredConfig

/-! ## Texts that denote integers -/

namespace Text

/-- The number that some digits denote, the most significant one first. -/
def decimalValue (digits : Text) : Nat :=
  Nat.ofDigits 10 (digits.reverse.map fun c => c.toNat - 48)

/-- The digits as they are, or behind a sign, and the integer that is meant. -/
inductive Signed (digits : Text) : Text → Int → Prop
  | bare : Signed digits digits (decimalValue digits)
  | plus : Signed digits (CodePoint.ofChar '+' :: digits) (decimalValue digits)
  | minus : Signed digits (CodePoint.ofChar '-' :: digits) (-(decimalValue digits : Int))

/-- One ASCII digit or more. -/
structure IsDecimal (digits : Text) : Prop where
  nonempty : digits ≠ []
  ascii : ∀ c ∈ digits, c.isDigit = true

/-- The text denotes the integer by these digits, perhaps with a sign, amid white space. -/
structure Denotes (t digits : Text) (n : Int) : Prop where
  decimal : IsDecimal digits
  spelled : ∃ before core after, t = before ++ core ++ after ∧ Signed digits core n ∧
    isWhite before = true ∧ isWhite after = true

variable {t digits digits' core : Text} {c : CodePoint} {n n' : Int} {negative : Bool}

/-- A digit is no white space. -/
theorem isWhiteSpace_of_isDigit (h : c.isDigit = true) : c.isWhiteSpace = false := by
  simp only [CodePoint.isDigit, Bool.and_eq_true, decide_eq_true_eq] at h
  simp only [CodePoint.isWhiteSpace, Bool.or_eq_false_iff, Bool.and_eq_false_iff, decide_eq_false_iff_not,
    beq_eq_false_iff_ne]
  omega

/-- No white space is in it, so trimming stops at its ends. -/
theorem Signed.not_white (h : Signed digits core n) (hdigits : IsDecimal digits) :
    core ≠ [] ∧ ∀ c ∈ core, c.isWhiteSpace = false := by
  have hblack : ∀ c ∈ digits, c.isWhiteSpace = false := fun c hc => isWhiteSpace_of_isDigit (hdigits.ascii c hc)
  cases h with
  | bare => exact ⟨hdigits.nonempty, hblack⟩
  | plus => exact ⟨List.cons_ne_nil _ _, List.forall_mem_cons.mpr ⟨by decide, hblack⟩⟩
  | minus => exact ⟨List.cons_ne_nil _ _, List.forall_mem_cons.mpr ⟨by decide, hblack⟩⟩

/-- **What a text denotes** is read off it when its ends are trimmed. -/
theorem denotes_iff : t.Denotes digits n ↔ IsDecimal digits ∧ Signed digits t.trim n := by
  constructor
  · rintro ⟨hdigits, before, core, after, rfl, hsigned, hbefore, hafter⟩
    obtain ⟨hne, hcore⟩ := hsigned.not_white hdigits
    rw [trim_append hbefore hafter hne hcore]
    exact ⟨hdigits, hsigned⟩
  · rintro ⟨hdigits, hsigned⟩
    obtain ⟨before, after, ht, hbefore, hafter⟩ := exists_trim t
    exact ⟨hdigits, before, t.trim, after, ht, hsigned, hbefore, hafter⟩

end Text

/-! ## What is read -/

namespace Namespace

open Text (IsDecimal Signed)

variable {t digits : Text} {n : Int} {negative : Bool}

/-- Digits are evaluated from the first one on, and mean what they denote. -/
theorem ofDigits_digitValues (digits : Text) :
    Number.ofDigits 10 (Number.digitValues digits) = digits.decimalValue := by
  have hfold : ∀ ds : List Nat, Number.ofDigits 10 ds = Nat.ofDigits 10 ds.reverse := by
    intro ds
    -- from the end, because the least significant digit is the head on the other side
    induction ds using List.reverseRecOn with
    | nil => rfl
    | append_singleton ds d ih =>
      rw [Number.ofDigits, List.foldl_append, List.reverse_append, List.reverse_singleton, List.singleton_append,
        Nat.ofDigits_cons, ← ih]
      show Number.ofDigits 10 ds * 10 + d = d + 10 * Number.ofDigits 10 ds
      omega
  rw [hfold, Number.digitValues, ← List.map_reverse, Text.decimalValue]

/-- The sign and the digits of a text are found if they are there. -/
theorem numeral?_of_signed (hdigits : IsDecimal digits) (h : Signed digits t n) :
    ∃ negative, numeral? t = some (negative, digits) ∧ n = Number.signed negative digits.decimalValue := by
  have hfound : (!digits.isEmpty && digits.all CodePoint.isDigit) = true := by
    rw [List.isEmpty_eq_false_iff.mpr hdigits.nonempty, List.all_eq_true.mpr hdigits.ascii]
    rfl
  cases h with
  | bare =>
    -- a digit is no sign
    obtain ⟨d, rest, rfl⟩ := List.exists_cons_of_ne_nil hdigits.nonempty
    have hd := hdigits.ascii d List.mem_cons_self
    have hminus : d ≠ '-' := by
      rintro rfl
      revert hd
      decide
    have hplus : d ≠ '+' := by
      rintro rfl
      revert hd
      decide
    refine ⟨false, ?_, rfl⟩
    simp only [numeral?, hminus, hplus, if_false, hfound, if_true]
  | plus =>
    have hminus : CodePoint.ofChar '+' ≠ '-' := by decide
    refine ⟨false, ?_, rfl⟩
    simp only [numeral?, hminus, if_false, if_true, hfound]
  | minus =>
    refine ⟨true, ?_, rfl⟩
    simp only [numeral?, if_true, hfound]

/-- What is found is there. -/
theorem signed_of_numeral? (h : numeral? t = some (negative, digits)) :
    IsDecimal digits ∧ Signed digits t (Number.signed negative digits.decimalValue) := by
  -- the last step of all three cases: what is left has to be digits
  have hfound {ds : Text} {sign : Bool}
      (h : (if (!ds.isEmpty && ds.all CodePoint.isDigit) = true then some (sign, ds) else none) =
        some (negative, digits)) : IsDecimal digits ∧ sign = negative ∧ ds = digits := by
    obtain ⟨hds, heq⟩ := Option.ite_none_right_eq_some.mp h
    obtain ⟨rfl, rfl⟩ := Prod.mk.inj (Option.some.inj heq)
    obtain ⟨hne, hall⟩ := (Bool.and_eq_true _ _).mp hds
    exact ⟨⟨by simpa using hne, List.all_eq_true.mp hall⟩, rfl, rfl⟩
  cases t with
  | nil => cases h
  | cons c rest =>
    by_cases hminus : c = '-'
    · subst hminus
      simp only [numeral?, if_true] at h
      obtain ⟨hdigits, rfl, rfl⟩ := hfound h
      exact ⟨hdigits, .minus⟩
    · by_cases hplus : c = '+'
      · subst hplus
        simp only [numeral?, hminus, if_false, if_true] at h
        obtain ⟨hdigits, rfl, rfl⟩ := hfound h
        exact ⟨hdigits, .plus⟩
      · simp only [numeral?, hminus, hplus, if_false] at h
        obtain ⟨hdigits, rfl, rfl⟩ := hfound h
        exact ⟨hdigits, .bare⟩

/-- A text that denotes an integer is read as its sign and its digits. -/
theorem exists_numeral? (h : t.Denotes digits n) :
    ∃ negative, numeral? t.trim = some (negative, digits) ∧ n = Number.signed negative digits.decimalValue := by
  obtain ⟨hdigits, hsigned⟩ := Text.denotes_iff.mp h
  exact numeral?_of_signed hdigits hsigned

/-- **Few digits** are read, and the integer is compared with the bounds. -/
theorem readInt32_of_denotes (h : t.Denotes digits n) (hlength : digits.length ≤ Number.digitLimit) :
    readInt32 t = .ok (if isInt32 n then some n else none) := by
  obtain ⟨negative, hnumeral, rfl⟩ := exists_numeral? h
  rw [readInt32, hnumeral]
  simp only [Number.readDecimal, if_pos hlength, ofDigits_digitValues]

/-- **Too many digits** are not read, whatever they denote. -/
theorem readInt32_of_overlong (h : t.Denotes digits n) (hlength : Number.digitLimit < digits.length) :
    readInt32 t = .error (.reading digits.length) := by
  obtain ⟨negative, hnumeral, -⟩ := exists_numeral? h
  rw [readInt32, hnumeral]
  simp only [Number.readDecimal, if_neg (Nat.not_le.mpr hlength)]

/-- **Anything else** is no integer. -/
theorem readInt32_of_not_denotes (h : ∀ digits n, ¬ t.Denotes digits n) : readInt32 t = .ok none := by
  rw [readInt32]
  cases hnumeral : numeral? t.trim with
  | none => rfl
  | some found =>
    obtain ⟨negative, digits⟩ := found
    exact absurd (Text.denotes_iff.mpr (signed_of_numeral? hnumeral)) (h _ _)

/-- A text denotes one integer at most, by the same digits. -/
theorem denotes_unique {digits' : Text} {n' : Int} (h : t.Denotes digits n) (h' : t.Denotes digits' n') :
    digits = digits' ∧ n = n' := by
  obtain ⟨negative, hnumeral, rfl⟩ := exists_numeral? h
  obtain ⟨negative', hnumeral', rfl⟩ := exists_numeral? h'
  obtain ⟨rfl, rfl⟩ := Prod.mk.inj (Option.some.inj (hnumeral.symm.trans hnumeral'))
  exact ⟨rfl, rfl⟩

end Namespace

/-! ## What readers may rely on -/

namespace Scope

variable {s : Scope} {ns : Namespace} {key : Text} {n : Int} {length : Nat}

/-- The value at the key denotes this integer of 32 bits. -/
def HoldsInt (s : Scope) (ns : Namespace) (key : Text) (n : Int) : Prop :=
  ∃ raw digits, s.get? ns key = some raw ∧ raw.decoded.Denotes digits n ∧ -2 ^ 31 ≤ n ∧ n ≤ 2 ^ 31 - 1

/-- Reading does not fail. It gives the integer of 32 bits at the key, and the default if there is none. -/
def ReadsInt (s : Scope) (ns : Namespace) (key : Text) (default : Int) : Prop :=
  ∃ answer, s.getInt ns key default = .ok answer ∧
    (∀ n, s.HoldsInt ns key n → answer = n) ∧ ((∀ n, ¬ s.HoldsInt ns key n) → answer = default)

/-- The value at the key denotes an integer by so many digits, which are more than are ever converted. -/
def Overlong (s : Scope) (ns : Namespace) (key : Text) (length : Nat) : Prop :=
  ∃ raw digits n, s.get? ns key = some raw ∧ raw.decoded.Denotes digits n ∧ digits.length = length ∧ 4300 < length

/-- The bounds are those of a signed integer of 32 bits. -/
theorem isInt32_iff : Namespace.isInt32 n = true ↔ -2 ^ 31 ≤ n ∧ n ≤ 2 ^ 31 - 1 := by
  simp only [Namespace.isInt32, Bool.and_eq_true, decide_eq_true_eq]
  omega

/-- The default comes in only where nothing was found, so not in place of a failure. -/
theorem getInt_eq (s : Scope) (ns : Namespace) (key : Text) (default : Int) :
    s.getInt ns key default = (s.int? ns key).map (·.getD default) := rfl

/-- Found at a key is what its presented value is read as. -/
theorem int?_of_get? {raw : RawValue} (h : s.get? ns key = some raw) :
    s.int? ns key = (Namespace.readInt32 raw.decoded).mapError .digits := by
  have hget : ns.get? (s.qualify key) = some raw := h
  rw [int?, Namespace.int?, Namespace.text?, hget]
  rfl

/-- Too many digits at a key let the reading fail, and the failure tells how many there are. -/
theorem int?_of_overlong (h : s.Overlong ns key length) : s.int? ns key = .error (.digits (.reading length)) := by
  obtain ⟨raw, digits, n, hget, hdenotes, rfl, hlength⟩ := h
  rw [int?_of_get? hget, Namespace.readInt32_of_overlong hdenotes hlength]
  rfl

/-- Short of too many digits, what is found is what is there. -/
theorem exists_int? (h : ∀ length, ¬ s.Overlong ns key length) :
    ∃ found, s.int? ns key = .ok found ∧ ∀ n, s.HoldsInt ns key n ↔ found = some n := by
  cases hget : s.get? ns key with
  | none =>
    have habsent : ns.get? (s.qualify key) = none := hget
    refine ⟨none, ?_, fun n => ?_⟩
    · rw [int?, Namespace.int?, Namespace.text?, habsent]
      rfl
    · simp [HoldsInt, hget]
  | some raw =>
    have hholds (n : Int) : s.HoldsInt ns key n ↔
        (∃ digits, raw.decoded.Denotes digits n) ∧ Namespace.isInt32 n = true := by
      simp only [HoldsInt, hget, Option.some.injEq, isInt32_iff]
      exact ⟨fun ⟨_, digits, hraw, hd, hn⟩ => ⟨⟨digits, hraw ▸ hd⟩, hn⟩,
        fun ⟨⟨digits, hd⟩, hn⟩ => ⟨raw, digits, rfl, hd, hn⟩⟩
    rw [int?_of_get? hget]
    by_cases hdenotes : ∃ digits n, raw.decoded.Denotes digits n
    · obtain ⟨digits, n, hd⟩ := hdenotes
      have hlength : digits.length ≤ Number.digitLimit :=
        Nat.not_lt.mp fun hlong => h digits.length ⟨raw, digits, n, hget, hd, rfl, hlong⟩
      refine ⟨_, by rw [Namespace.readInt32_of_denotes hd hlength]; rfl, fun m => ?_⟩
      -- no other integer is denoted, so whether it is found depends on the bounds only
      rw [hholds, Option.ite_none_right_eq_some, Option.some.injEq]
      constructor
      · rintro ⟨⟨digits', hd'⟩, hm⟩
        obtain ⟨-, rfl⟩ := Namespace.denotes_unique hd hd'
        exact ⟨hm, rfl⟩
      · rintro ⟨hn, rfl⟩
        exact ⟨⟨digits, hd⟩, hn⟩
    · -- what denotes nothing is not there as an integer of 32 bits either
      have hnone : ∀ digits n, ¬ raw.decoded.Denotes digits n := fun digits n hd => hdenotes ⟨digits, n, hd⟩
      refine ⟨none, by rw [Namespace.readInt32_of_not_denotes hnone]; rfl, fun n => ?_⟩
      simp [hholds, hnone]

/-- **Reading an integer is lenient** exactly if there are no more digits than are ever converted. With more of them it
fails, whatever the integer and the default are. -/
theorem readsInt_iff (s : Scope) (ns : Namespace) (key : Text) (default : Int) :
    (s.ReadsInt ns key default ↔ ∀ length, ¬ s.Overlong ns key length) ∧
      ∀ length, s.Overlong ns key length → s.getInt ns key default = .error (.digits (.reading length)) := by
  have hfails {length : Nat} (hlong : s.Overlong ns key length) :
      s.getInt ns key default = .error (.digits (.reading length)) := by
    rw [getInt_eq, int?_of_overlong hlong]
    rfl
  refine ⟨⟨?_, fun h => ?_⟩, fun length => hfails⟩
  · rintro ⟨answer, hanswer, -⟩ length hlong
    cases hanswer.symm.trans (hfails hlong)
  · obtain ⟨found, hfound, hholds⟩ := exists_int? h
    refine ⟨found.getD default, by rw [getInt_eq, hfound]; rfl, fun n hn => ?_, fun hnone => ?_⟩
    · rw [(hholds n).mp hn]
      rfl
    · cases found with
      | none => rfl
      | some n => exact absurd ((hholds n).mpr rfl) (hnone n)

/-! A zero of too many digits. -/

namespace Zeros

def digits : Text :=
  List.replicate 4301 '0'

def held : Namespace :=
  ⟨.ofList [("uid.maxlength", ⟨.text digits, none⟩)], []⟩

theorem denotes : digits.Denotes digits 0 := by
  have hdecimal : digits.IsDecimal := by
    refine ⟨List.cons_ne_nil _ _, fun c hc => ?_⟩
    rw [List.eq_of_mem_replicate hc]
    decide
  have hvalue : digits.decimalValue = 0 := by
    rw [Text.decimalValue, digits, List.reverse_replicate, List.map_replicate]
    exact Nat.ofDigits_replicate_zero
  have hsigned : Text.Signed digits digits (digits.decimalValue : Int) := .bare
  rw [hvalue] at hsigned
  exact ⟨hdecimal, [], digits, [], (List.append_nil digits).symm, hsigned, rfl, rfl⟩

end Zeros

open Zeros in
/-- **Not every integer of 32 bits is read.** -/
theorem not_readsInt : whole.HoldsInt held "uid.maxlength" 0 ∧ ¬ whole.ReadsInt held "uid.maxlength" 8 := by
  have hget : whole.get? held "uid.maxlength" = some (.text digits) := rfl
  refine ⟨⟨_, digits, hget, denotes, by decide, by decide⟩, ?_⟩
  rintro ⟨answer, hanswer, -⟩
  have hlong : whole.Overlong held "uid.maxlength" 4301 :=
    ⟨_, digits, 0, hget, denotes, List.length_replicate, by decide⟩
  rw [getInt_eq, int?_of_overlong hlong] at hanswer
  cases hanswer

end Scope

end LayeredConfig
