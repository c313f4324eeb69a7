import Mathlib.Data.Rat.Floor

/-!
# `Billing.Python` — the values, exceptions and texts of the source

The billing code passes three kinds of data around that have no fixed type: JSON-like values in `metadata`
dictionaries, exceptions whose class and text callers inspect, and numbers formatted into messages.

Amounts are exact: a Python `float` or a `NUMERIC` column is a rational. `formatFixed n` is the format
`:.nf` and `floatRepr` the plain `str` of a decimal.
-/

namespace Gatewayz

/-! ## Values and dictionaries -/

/-- A scalar of a `metadata` dictionary. -/
inductive PyValue where
  | none
  | bool (b : Bool)
  | int (n : Int)
  | float (q : ℚ)
  | str (s : String)
  deriving DecidableEq, Inhabited

/-- Python truth. -/
def PyValue.truthy : PyValue → Bool
  | .none => false
  | .bool b => b
  | .int n => n ≠ 0
  | .float q => q ≠ 0
  | .str s => s ≠ ""

abbrev Dict := List (String × PyValue)

namespace Dict

/-- `d.get(key)`. -/
def get : Dict → String → PyValue
  | [], _ => .none
  | (k, x) :: d, key => if k = key then x else get d key

/-- `d[key] = v`: an existing key keeps its place. -/
def set : Dict → String → PyValue → Dict
  | [], key, v => [(key, v)]
  | (k, x) :: d, key, v => if k = key then (key, v) :: d else (k, x) :: set d key v

/-- A dictionary display that unpacks `d` first and then lists `entries`; later entries win. -/
def update (d entries : Dict) : Dict := entries.foldl (fun acc e => acc.set e.1 e.2) d

@[simp] theorem update_nil (d : Dict) : d.update [] = d := rfl
@[simp] theorem update_cons (d : Dict) (e : String × PyValue) (es : Dict) :
    d.update (e :: es) = (d.set e.1 e.2).update es := rfl

end Dict

/-! ## Exceptions -/

/-- The exception classes that some `except` or caller of the source tells apart. -/
inductive ErrKind where
  | valueError
  | runtimeError
  | typeError
  | databaseResultError
  | dailyUsageLimitExceeded
  | httpException (status : Nat)
  /-- One of `CONNECTION_ERROR_TYPES`. -/
  | connectionError
  /-- `stripe.StripeError` and its subclasses. -/
  | stripeError
  /-- The database refused the statement, with its SQLSTATE. -/
  | apiError (code : String)
  | other
  deriving DecidableEq

/-- An exception: its class and its `str`. -/
structure PyErr where
  kind : ErrKind
  text : String
  deriving DecidableEq

namespace PyErr

def valueError (text : String) : PyErr := ⟨.valueError, text⟩
def runtimeError (text : String) : PyErr := ⟨.runtimeError, text⟩
def typeError (text : String) : PyErr := ⟨.typeError, text⟩
def httpException (status : Nat) (detail : String) : PyErr := ⟨.httpException status, detail⟩

/-- Is this an `HTTPException`? -/
def isHttp (e : PyErr) : Bool :=
  match e.kind with
  | .httpException _ => true
  | _ => false

end PyErr

theorem bind_eq_ok {ε α β : Type} {x : Except ε α} {f : α → Except ε β} {b : β} :
    (x >>= f) = .ok b ↔ ∃ a, x = .ok a ∧ f a = .ok b := by
  cases x with
  | error e => exact ⟨nofun, fun ⟨_, h, _⟩ => nomatch h⟩
  | ok a => exact ⟨fun h => ⟨a, rfl, h⟩, fun ⟨_, h, hf⟩ => by cases h; exact hf⟩

theorem map_eq_ok {ε α β : Type} {x : Except ε α} {f : α → β} {b : β} : x.map f = .ok b ↔ ∃ a, x = .ok a ∧ f a = b := by
  cases x with
  | error e => exact ⟨nofun, fun ⟨_, h, _⟩ => nomatch h⟩
  | ok a => exact ⟨fun h => ⟨a, rfl, Except.ok.inj h⟩, fun ⟨_, h, hf⟩ => by cases h; exact congrArg Except.ok hf⟩

/-- `needle in haystack`. -/
def textContains (needle haystack : String) : Bool :=
  haystack.toList.tails.any (fun t => needle.toList.isPrefixOf t)

/-- `s.lower()` for ASCII texts. -/
def lower (s : String) : String := String.ofList (s.toList.map Char.toLower)

theorem toLower_toLower (c : Char) : c.toLower.toLower = c.toLower := by
  unfold Char.toLower
  grind

@[simp] theorem lower_lower (s : String) : lower (lower s) = lower s := by
  unfold lower
  rw [String.toList_ofList, List.map_map]
  congr 1
  exact List.map_congr_left fun c _ => toLower_toLower c

/-- Only letters have a case. -/
theorem toLower_eq_iff {c k : Char} (h : k.isAlpha = false) : c.toLower = k ↔ c = k := by
  obtain ⟨hnotUpper, hnotLower⟩ := Bool.or_eq_false_iff.mp h
  unfold Char.toLower
  split
  · next hupper =>
    refine iff_of_false ?_ ?_
    · intro heq
      subst heq
      have hle := UInt32.le_iff_toNat_le.mp hupper.1
      have hge := UInt32.le_iff_toNat_le.mp hupper.2
      rcases Bool.and_eq_false_iff.mp hnotLower with hlow | hhigh
      · have hbelow := of_decide_eq_false hlow
        simp [UInt32.le_iff_toNat_le] at hbelow hle hge
        omega
      · have habove := of_decide_eq_false hhigh
        simp [UInt32.le_iff_toNat_le] at habove hle hge
        omega
    · rintro rfl
      exact of_decide_eq_false hnotUpper hupper
  · rfl

/-- `"".join(texts)`. -/
def concat (texts : List String) : String := texts.foldr (· ++ ·) ""

@[simp] theorem concat_nil : concat [] = "" := rfl
@[simp] theorem concat_cons (s : String) (ss : List String) : concat (s :: ss) = s ++ concat ss := rfl

@[simp] theorem concat_append (ss ts : List String) : concat (ss ++ ts) = concat ss ++ concat ts := by
  induction ss with
  | nil => simp
  | cons s ss ih => simp [ih, String.append_assoc]

/-! ## Numbers in messages -/

/-- `round`: to the nearest integer, ties to even. -/
def roundHalfEven (q : ℚ) : Int :=
  let low := ⌊q⌋
  let rest := q - low
  if rest < 1 / 2 then low
  else if 1 / 2 < rest then low + 1
  else if low % 2 = 0 then low else low + 1

/-- `round` is off by a half at most. -/
theorem abs_roundHalfEven_sub_le (q : ℚ) : |(roundHalfEven q : ℚ) - q| ≤ 1 / 2 := by
  have hlow : (⌊q⌋ : ℚ) ≤ q := Int.floor_le q
  have hhigh : q < ⌊q⌋ + 1 := Int.lt_floor_add_one q
  unfold roundHalfEven
  simp only
  rw [abs_le]
  split
  · constructor <;> linarith
  split
  · constructor <;> push_cast <;> linarith
  split
  · constructor <;> linarith
  · constructor <;> push_cast <;> linarith

theorem floor_le_roundHalfEven (q : ℚ) : ⌊q⌋ ≤ roundHalfEven q ∧ roundHalfEven q ≤ ⌊q⌋ + 1 := by
  unfold roundHalfEven
  dsimp only
  split_ifs <;> omega

theorem roundHalfEven_mono {x y : ℚ} (h : x ≤ y) : roundHalfEven x ≤ roundHalfEven y := by
  rcases (Int.floor_le_floor h).eq_or_lt with heq | hlt
  · unfold roundHalfEven
    dsimp only
    rw [heq]
    split_ifs
    all_goals first | omega | linarith
  · calc roundHalfEven x ≤ ⌊x⌋ + 1 := (floor_le_roundHalfEven x).2
      _ ≤ ⌊y⌋ := hlt
      _ ≤ roundHalfEven y := (floor_le_roundHalfEven y).1

/-- `round(q, 2)`. -/
def round2 (q : ℚ) : ℚ := roundHalfEven (q * 100) / 100

/-- `round(q, 6)`. -/
def round6 (q : ℚ) : ℚ := roundHalfEven (q * 1000000) / 1000000

/-- `text` padded on the left with zeros to `n` characters. -/
def padZeros (n : Nat) (text : String) : String :=
  String.ofList (List.replicate (n - text.length) '0') ++ text

/-- The format `:.nf`. -/
def formatFixed (n : Nat) (q : ℚ) : String :=
  let scaled := (roundHalfEven (|q| * (10 : ℚ) ^ n)).toNat
  (if q < 0 then "-" else "") ++ toString (scaled / 10 ^ n) ++ "." ++ padZeros n (toString (scaled % 10 ^ n))

/-- `str` of a decimal with at most twelve places. -/
def floatRepr (q : ℚ) : String :=
  let chars := (formatFixed 12 q).toList.reverse
  let kept := chars.dropWhile (· == '0')
  String.ofList (if kept.head? = some '.' then '0' :: kept else kept).reverse

/-- `str(v)`. -/
def PyValue.text : PyValue → String
  | .none => "None"
  | .bool b => if b then "True" else "False"
  | .int n => toString n
  | .float q => floatRepr q
  | .str s => s

/-! ## Dates in messages -/

/-- Year, month and day of a day counted from 1970-01-01, in the proleptic Gregorian calendar. -/
def civilFromDays (days : Nat) : Nat × Nat × Nat :=
  -- count from 0000-03-01, so that the leap day ends a year and 400 years are one period
  let z := days + 719468
  let era := z / 146097
  let dayOfEra := z % 146097
  let yearOfEra := (dayOfEra - dayOfEra / 1460 + dayOfEra / 36524 - dayOfEra / 146096) / 365
  let dayOfYear := dayOfEra - (365 * yearOfEra + yearOfEra / 4 - yearOfEra / 100)
  let marchMonth := (5 * dayOfYear + 2) / 153
  let day := dayOfYear - (153 * marchMonth + 2) / 5 + 1
  let month := if marchMonth < 10 then marchMonth + 3 else marchMonth - 9
  (yearOfEra + era * 400 + (if month ≤ 2 then 1 else 0), month, day)

/-- `datetime.isoformat()` of a UTC time with whole seconds. -/
def isoformat (t : Nat) : String :=
  let (year, month, day) := civilFromDays (t / 86400)
  let second := t % 86400
  padZeros 4 (toString year) ++ "-" ++ padZeros 2 (toString month) ++ "-" ++ padZeros 2 (toString day) ++ "T" ++
    padZeros 2 (toString (second / 3600)) ++ ":" ++ padZeros 2 (toString (second % 3600 / 60)) ++ ":" ++
    padZeros 2 (toString (second % 60)) ++ "+00:00"

example : isoformat 1783209600 = "2026-07-05T00:00:00+00:00" := by decide +kernel

example : formatFixed 2 (-13 / 8) = "-1.62" ∧ floatRepr (59 / 2) = "29.5" ∧ floatRepr 5 = "5.0" := by
  decide +kernel

end Gatewayz
