import Mathlib.Tactic.Common
import PhpOutline.Settings

/-!
# What is said about a bad configuration

The value of a configuration is read as settings, or it has an error with a text of its own. Two
things stand against that, both about the unknown keys of a mapping. The keys are sorted before they
are listed, and keys of different families have no order; and a whole number of too many digits
cannot be listed. Everything else that can be wrong with a value has a text. All of this holds for
every value, whichever the loader gives for a text.

Results:
* `comparable_iff`: the lists of keys that can be sorted.
* `unknownKeys?_eq_none_iff`, `mem_of_unknownKeys?`: the unknown keys of a mapping.
* `ofEntries_of_known`: what can be wrong with the values of known keys.
* `read_told_iff`: which configurations are settings or have an error with a text.
-/

namespace PhpOutline

open Yaml (Fault Scalar Value)

namespace Yaml

/-- Keys can be sorted if they are all of one family. -/
theorem Scalar.comparable_iff {keys : List Scalar} :
    Scalar.comparable keys = true ↔ ∀ a ∈ keys, ∀ b ∈ keys, a.family = b.family := by
  cases keys with
  | nil => simp [Scalar.comparable]
  | cons first rest =>
    have hrest : Scalar.comparable (first :: rest) = true ↔
        ∀ a ∈ rest, a.family = first.family := by
      simp [Scalar.comparable]
    rw [hrest]
    constructor
    · intro h
      have hall : ∀ a ∈ first :: rest, a.family = first.family := List.forall_mem_cons.2 ⟨rfl, h⟩
      exact fun a ha b hb => (hall a ha).trans (hall b hb).symm
    · intro h a ha
      exact h a (List.mem_cons_of_mem first ha) first List.mem_cons_self

end Yaml

namespace Settings

/-! ## Unknown keys -/

/-- A key of a mapping that is none of the known keys. -/
def UnknownKey (value : Value) (key : Scalar) : Prop :=
  ∃ entries, value = .mapping entries ∧ key ∈ entries.map Prod.fst ∧
    ∀ known : SettingsKey, key ≠ .text known.name

/-- Two unknown keys are of different families, so that there is no order between them. -/
def MixesKeys (value : Value) : Prop :=
  ∃ a b, UnknownKey value a ∧ UnknownKey value b ∧ a.family ≠ b.family

/-- An unknown key is a whole number of more decimal digits than are written. -/
def HasLongKey (value : Value) : Prop :=
  ∃ n : Int, UnknownKey value (.whole n) ∧
    Scalar.greatestLength < (Nat.toDigits 10 n.natAbs).length

variable {entries : List (Scalar × Value)} {key : Scalar} {e : SettingsError}

theorem isKnown_eq_false_iff :
    isKnown key = false ↔ ∀ known : SettingsKey, key ≠ .text known.name := by
  have hall : ∀ known : SettingsKey, known ∈ SettingsKey.all := by
    intro known
    cases known <;> decide
  cases key with
  | text s =>
    have hany : isKnown (.text s) = SettingsKey.all.any (·.name == s) := rfl
    rw [hany, List.any_eq_false]
    constructor
    · intro h known hname
      exact h known (hall known) (by rw [Scalar.text.inj hname]; exact beq_self_eq_true _)
    · intro h known _ hname
      exact h known (congrArg Scalar.text (eq_of_beq hname).symm)
  | _ => simp [isKnown]

theorem unknownKey_iff :
    UnknownKey (.mapping entries) key ↔
      key ∈ (entries.map (·.1)).filter fun key => !isKnown key := by
  rw [List.mem_filter, Bool.not_eq_true', isKnown_eq_false_iff]
  constructor
  · rintro ⟨_, heq, hmem, hkey⟩
    cases heq
    exact ⟨hmem, hkey⟩
  · rintro ⟨hmem, hkey⟩
    exact ⟨entries, rfl, hmem, hkey⟩

/-- The unknown keys have no order exactly if they are of different families. -/
theorem unknownKeys?_eq_none_iff :
    unknownKeys? entries = none ↔ MixesKeys (.mapping entries) := by
  unfold unknownKeys?
  simp only [ite_eq_right_iff, reduceCtorEq, imp_false, Scalar.comparable_iff, ← unknownKey_iff]
  constructor
  · intro h
    push Not at h
    obtain ⟨a, ha, b, hb, hne⟩ := h
    exact ⟨a, b, ha, hb, hne⟩
  · rintro ⟨a, b, ha, hb, hne⟩ h
    exact hne (h a ha b hb)

/-- The listed keys are the unknown keys. -/
theorem mem_of_unknownKeys? {keys : List Scalar} (h : unknownKeys? entries = some keys) :
    key ∈ keys ↔ UnknownKey (.mapping entries) key := by
  unfold unknownKeys? at h
  simp only [Option.ite_none_right_eq_some, Option.some.injEq] at h
  rw [← h.2, List.mem_mergeSort, unknownKey_iff]

theorem isShown_eq_false_iff :
    key.isShown = false ↔
      ∃ n : Int, key = .whole n ∧ Scalar.greatestLength < (Nat.toDigits 10 n.natAbs).length := by
  cases key with
  | whole n =>
    have hshown : (Scalar.whole n).isShown = true ↔
        (Nat.toDigits 10 n.natAbs).length ≤ Scalar.greatestLength := decide_eq_true_iff
    rw [Bool.eq_false_iff, Ne, hshown, Nat.not_le]
    simp
  | _ => simp [Scalar.isShown]

/-- Some key cannot be listed exactly if a whole number among the unknown keys is too long. -/
theorem not_all_isShown_iff {keys : List Scalar} (h : unknownKeys? entries = some keys) :
    ¬ keys.all Scalar.isShown = true ↔ HasLongKey (.mapping entries) := by
  rw [Bool.not_eq_true, List.all_eq_false]
  simp only [Bool.not_eq_true, isShown_eq_false_iff, mem_of_unknownKeys? h]
  constructor
  · rintro ⟨key, hkey, n, rfl, hlong⟩
    exact ⟨n, hkey, hlong⟩
  · rintro ⟨n, hkey, hlong⟩
    exact ⟨_, hkey, n, rfl, hlong⟩

/-! ## Values of known keys -/

theorem choose_eq_error {α : Type} {key : SettingsKey} {default : α} {decode : Value → Option α}
    (h : choose entries key default decode = .error e) : e = .wrongKind key := by
  unfold choose at h
  split at h
  · cases h
  · split at h
    · cases h
    · cases h
      rfl

theorem chooseLevel_eq_error {default : Log.Level} (h : chooseLevel entries default = .error e) :
    e = .wrongKind .level ∨ e = .unknownLevel := by
  unfold chooseLevel at h
  rcases hname : choose entries .level none (fun value => (textOf? value).map some) with e' | name
  · rw [hname] at h
    cases h
    exact .inl (choose_eq_error hname)
  · rw [hname] at h
    cases name with
    | none => cases h
    | some name =>
      cases hlevel : Log.Level.ofName? name with
      | some level =>
        simp only [bind, Except.bind, hlevel] at h
        cases h
      | none =>
        simp only [bind, Except.bind, hlevel] at h
        cases h
        exact .inr rfl

/-- Without unknown keys, a value is of a wrong kind or names no level. -/
theorem ofEntries_of_known (hkeys : unknownKeys? entries = some [])
    (h : ofEntries entries = .error e) :
    (∃ key, e = .wrongKind key) ∨ e = .unknownLevel := by
  unfold ofEntries at h
  rw [hkeys] at h
  simp only [bind, Except.bind] at h
  split at h
  · next hmarkers =>
    cases h
    exact .inl ⟨_, choose_eq_error hmarkers⟩
  · split at h
    · next hvalidate =>
      cases h
      exact .inl ⟨_, choose_eq_error hvalidate⟩
    · split at h
      · next hinterpreter =>
        cases h
        exact .inl ⟨_, choose_eq_error hinterpreter⟩
      · split at h
        · next hencoding =>
          cases h
          exact .inl ⟨_, choose_eq_error hencoding⟩
        · split at h
          · next hlevel =>
            cases h
            exact (chooseLevel_eq_error hlevel).imp_left fun hkind => ⟨_, hkind⟩
          · cases h

/-! ## Configurations -/

/-- An outcome that is told: settings, or an error with a text of its own. -/
def IsTold (label : String) (outcome : Except SettingsError Settings) : Prop :=
  (∃ settings, outcome = .ok settings) ∨
    ∃ e message, outcome = .error e ∧ e.message? label = some message

theorem isTold_of_known (label : String) (hkeys : unknownKeys? entries = some []) :
    IsTold label (ofEntries entries) := by
  cases houtcome : ofEntries entries with
  | ok settings => exact .inl ⟨settings, rfl⟩
  | error e =>
    right
    rcases ofEntries_of_known hkeys houtcome with ⟨key, rfl⟩ | rfl
    · exact ⟨_, _, rfl, rfl⟩
    · exact ⟨_, _, rfl, rfl⟩

/-- The three ways of a mapping: keys without an order, a key that cannot be listed, and all else,
    which is told. -/
theorem ofEntries_cases (label : String) (entries : List (Scalar × Value)) :
    (MixesKeys (.mapping entries) ∧ ofEntries entries = .error .unsortable) ∨
    (¬ MixesKeys (.mapping entries) ∧ HasLongKey (.mapping entries) ∧
      ofEntries entries = .error (.unreadable .impossible)) ∨
    (¬ MixesKeys (.mapping entries) ∧ ¬ HasLongKey (.mapping entries) ∧
      IsTold label (ofEntries entries)) := by
  cases hkeys : unknownKeys? entries with
  | none =>
    left
    refine ⟨unknownKeys?_eq_none_iff.1 hkeys, ?_⟩
    rw [ofEntries, hkeys]
  | some keys =>
    have hsorted : ¬ MixesKeys (.mapping entries) := by
      rw [← unknownKeys?_eq_none_iff, hkeys]
      exact fun h => nomatch h
    right
    cases keys with
    | nil =>
      right
      refine ⟨hsorted, ?_, isTold_of_known label hkeys⟩
      rw [← not_all_isShown_iff hkeys]
      simp
    | cons key keys =>
      by_cases hshown : (key :: keys).all Scalar.isShown = true
      · right
        refine ⟨hsorted, fun hlong => (not_all_isShown_iff hkeys).2 hlong hshown, .inr ?_⟩
        refine ⟨.unknownKeys (key :: keys), _, ?_, rfl⟩
        rw [ofEntries, hkeys]
        exact if_pos hshown
      · left
        refine ⟨hsorted, (not_all_isShown_iff hkeys).1 hshown, ?_⟩
        rw [ofEntries, hkeys]
        exact if_neg hshown

theorem not_unknownKey {value : Value} (h : ∀ entries, value ≠ .mapping entries) (key : Scalar) :
    ¬ UnknownKey value key := by
  rintro ⟨entries, hvalue, -⟩
  exact h entries hvalue

/-- A value that is no mapping is told. -/
theorem isTold_of_not_mapping (label : String) {value : Value}
    (h : ∀ entries, value ≠ .mapping entries) : IsTold label (ofValue value) := by
  cases value with
  | mapping entries => exact absurd rfl (h entries)
  | scalar s =>
    cases s with
    | null => exact .inl ⟨_, rfl⟩
    | _ => exact .inr ⟨_, _, rfl, rfl⟩
  | _ => exact .inr ⟨_, _, rfl, rfl⟩

/-- The three ways of a value. -/
theorem ofValue_cases (label : String) (value : Value) :
    (MixesKeys value ∧ ofValue value = .error .unsortable) ∨
    (¬ MixesKeys value ∧ HasLongKey value ∧ ofValue value = .error (.unreadable .impossible)) ∨
    (¬ MixesKeys value ∧ ¬ HasLongKey value ∧ IsTold label (ofValue value)) := by
  by_cases hmapping : ∃ entries, value = .mapping entries
  · obtain ⟨entries, rfl⟩ := hmapping
    exact ofEntries_cases label entries
  · have hnot : ∀ entries, value ≠ .mapping entries := fun entries h => hmapping ⟨entries, h⟩
    refine .inr (.inr ⟨?_, ?_, isTold_of_not_mapping label hnot⟩)
    · rintro ⟨a, -, ha, -⟩
      exact not_unknownKey hnot a ha
    · rintro ⟨n, hn, -⟩
      exact not_unknownKey hnot _ hn

/-- An error without a text is not told. -/
theorem not_isTold {label : String} (h : e.message? label = none) :
    ¬ IsTold label (.error e) := by
  rintro (⟨_, hok⟩ | ⟨e', message, herror, hmessage⟩)
  · cases hok
  · cases herror
    cases h.symm.trans hmessage

/-- Every value is told, unless the unknown keys of a mapping have no order or one of them is too
    long a number. In the first case sorting the keys fails, and in the second case writing the
    number. So it is with a configuration, whichever value the loader gives for its text. -/
theorem read_told_iff (value : Value) (label : String) :
    (IsTold label (ofValue value) ↔ ¬ MixesKeys value ∧ ¬ HasLongKey value) ∧
    (ofValue value = .error .unsortable ↔ MixesKeys value) ∧
    (ofValue value = .error (.unreadable .impossible) ↔ ¬ MixesKeys value ∧ HasLongKey value) ∧
    ∀ (load : String → Except Fault Value) (text : String), load text = .ok value →
      read load text = ofValue value := by
  have hread : ∀ (load : String → Except Fault Value) (text : String), load text = .ok value →
      read load text = ofValue value := by
    intro load text h
    rw [read, h]
  rcases ofValue_cases label value with ⟨hmixes, houtcome⟩ | ⟨hsorted, hlong, houtcome⟩ |
    ⟨hsorted, hshort, htold⟩
  · have hsilent : ¬ IsTold label (.error .unsortable) := not_isTold rfl
    refine ⟨?_, ?_, ?_, hread⟩ <;> rw [houtcome] <;> simp [hmixes, hsilent]
  · have hsilent : ¬ IsTold label (.error (.unreadable .impossible)) := not_isTold rfl
    refine ⟨?_, ?_, ?_, hread⟩ <;> rw [houtcome] <;> simp [hsorted, hlong, hsilent]
  · refine ⟨iff_of_true htold ⟨hsorted, hshort⟩, iff_of_false (fun houtcome => ?_) hsorted,
      iff_of_false (fun houtcome => ?_) fun hlong => hshort hlong.2, hread⟩
    · rw [houtcome] at htold
      exact not_isTold rfl htold
    · rw [houtcome] at htold
      exact not_isTold rfl htold

/-- The unknown keys `1` and `b` have no order, while one unknown key is told. -/
theorem read_told_iff_mixed :
    let mixed : Value := .mapping [(.whole 1, .scalar (.text "a")), (.text "b", .scalar (.text "c"))]
    let dated : Value := .mapping [(.time (.day ⟨2020, 1, 1⟩), .scalar (.text "a"))]
    let load : String → Except Fault Value := fun text =>
      if text = "1: a\nb: c\n" then .ok mixed else .ok dated
    (MixesKeys mixed ∧ read load "1: a\nb: c\n" = .error .unsortable ∧
      ¬ IsTold "<string>" (read load "1: a\nb: c\n")) ∧
    (read load "2020-01-01: a\n" = .error (.unknownKeys [.time (.day ⟨2020, 1, 1⟩)]) ∧
      ¬ MixesKeys dated ∧ IsTold "<string>" (read load "2020-01-01: a\n")) := by
  intro mixed dated load
  obtain ⟨htold, hunsortable, -, hmixed⟩ := read_told_iff mixed "<string>"
  obtain ⟨htold', -, -, hdated⟩ := read_told_iff dated "<string>"
  have hmixes : MixesKeys mixed := hunsortable.1 (by decide +kernel)
  have houtcome : ofValue dated = .error (.unknownKeys [.time (.day ⟨2020, 1, 1⟩)]) := by
    decide +kernel
  have hlisted : IsTold "<string>" (ofValue dated) := .inr ⟨_, _, houtcome, rfl⟩
  rw [hmixed load _ (if_pos rfl), hdated load _ (if_neg (by decide))]
  exact ⟨⟨hmixes, hunsortable.2 hmixes, fun h => (htold.1 h).1 hmixes⟩,
    houtcome, (htold'.1 hlisted).1, hlisted⟩

end Settings

end PhpOutline
