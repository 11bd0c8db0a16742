import Mathlib.Data.List.Nodup

/-!
# First-match lookup and update in a list

A list of records is read as a table: a key finds the first record that bears
it, and an update rewrites that record in place. Keys may repeat; an update then
leaves every later record with the same key alone, exactly as a mutable search
for the first match does. Under distinct keys the update is a pointwise map.
-/

namespace FirstMatch

universe u v
variable {Record : Type u} {Key : Type v} [DecidableEq Key]
  (key : Record → Key)

/-- The first record bearing a key. -/
def lookup (records : List Record) (wanted : Key) : Option Record :=
  records.find? (fun record => key record = wanted)

/-- Rewrite the first record bearing a key; a missing key changes nothing. -/
def update (wanted : Key) (change : Record → Record) : List Record → List Record
  | [] => []
  | record :: rest =>
      if key record = wanted then change record :: rest
      else record :: update wanted change rest

variable {key} {records : List Record} {wanted asked : Key} {record : Record}
  {change : Record → Record}

/-- A record found for a key is in the list and bears the key. -/
theorem lookup_some (found : lookup key records wanted = some record) :
    record ∈ records ∧ key record = wanted :=
  ⟨List.mem_of_find?_eq_some found, by simpa using List.find?_some found⟩

/-- A key finds nothing exactly when no record bears it. -/
theorem lookup_none : lookup key records wanted = none ↔ wanted ∉ records.map key := by
  simp only [lookup, List.find?_eq_none, decide_eq_true_eq, List.mem_map, not_exists, not_and]

/-- A key that some record bears finds a record. -/
theorem lookup_isSome : (lookup key records wanted).isSome ↔ wanted ∈ records.map key := by
  rw [← not_iff_not, Bool.not_eq_true, Option.isSome_eq_false_iff, Option.isNone_iff_eq_none,
    lookup_none]

/-- With distinct keys a record is what its own key finds. -/
theorem lookup_of_mem (unique : (records.map key).Nodup) (member : record ∈ records) :
    lookup key records (key record) = some record := by
  obtain ⟨found, present⟩ := Option.isSome_iff_exists.mp
    (lookup_isSome.mpr (List.mem_map_of_mem (f := key) member))
  obtain ⟨belongs, same⟩ := lookup_some present
  rw [present, List.inj_on_of_nodup_map unique belongs member same]

/-- What an update keeps of every record is kept at every position. -/
theorem update_map {Part : Type*} {part : Record → Part}
    (keeps : ∀ record, part (change record) = part record) :
    (update key wanted change records).map part = records.map part := by
  induction records with
  | nil => rfl
  | cons record rest inductionHypothesis =>
    by_cases same : key record = wanted
    · simp [update, same, keeps]
    · simp [update, same, inductionHypothesis]

/-- The update of a key that no record bears changes nothing. -/
theorem update_missing (missing : lookup key records wanted = none) :
    update key wanted change records = records := by
  induction records with
  | nil => rfl
  | cons record rest inductionHypothesis =>
    simp only [lookup_none, List.map_cons, List.mem_cons, not_or] at missing
    rw [update, if_neg (Ne.symm missing.1), inductionHypothesis (lookup_none.mpr missing.2)]

/-- An update leaves as many records as there were. -/
theorem update_length : (update key wanted change records).length = records.length := by
  induction records with
  | nil => rfl
  | cons record rest inductionHypothesis =>
    by_cases same : key record = wanted
    · simp [update, same]
    · simp [update, same, inductionHypothesis]

/-- What holds of every record and is kept by the change holds after the update. -/
theorem update_forall {Holds : Record → Prop} (before : ∀ record ∈ records, Holds record)
    (kept : ∀ record, Holds record → Holds (change record)) :
    ∀ record ∈ update key wanted change records, Holds record := by
  induction records with
  | nil =>
    intro record member
    cases member
  | cons head rest inductionHypothesis =>
    have first := before head List.mem_cons_self
    have others := fun record member => before record (List.mem_cons_of_mem head member)
    intro record member
    by_cases same : key head = wanted
    · simp only [update, same, if_true] at member
      rcases List.mem_cons.mp member with rfl | inside
      · exact kept head first
      · exact others record inside
    · simp only [update, same, if_false] at member
      rcases List.mem_cons.mp member with rfl | inside
      · exact first
      · exact inductionHypothesis others record inside

/-- After an update every key finds what it found before, rewritten if it is the
updated key. -/
theorem lookup_update (keeps : ∀ record, key (change record) = key record) :
    lookup key (update key wanted change records) asked =
      if asked = wanted then (lookup key records wanted).map change
      else lookup key records asked := by
  induction records with
  | nil => simp [lookup, update]
  | cons record rest inductionHypothesis =>
    simp only [lookup] at inductionHypothesis ⊢
    by_cases same : key record = wanted
    · by_cases self : asked = wanted
      · simp [update, same, keeps, self]
      · have other : ¬ wanted = asked := fun equal => self equal.symm
        simp [update, same, keeps, self, other]
    · by_cases self : asked = wanted
      · subst asked
        simpa [update, same] using inductionHypothesis
      · by_cases head : key record = asked
        · simp [update, head, self]
        · simpa [update, same, head, self] using inductionHypothesis

/-- With distinct keys an update is a pointwise map, so it can be read at any
position. -/
theorem update_eq_map (unique : (records.map key).Nodup) :
    update key wanted change records =
      records.map (fun record => if key record = wanted then change record else record) := by
  induction records with
  | nil => rfl
  | cons record rest inductionHypothesis =>
    simp only [List.map_cons, List.nodup_cons] at unique
    by_cases same : key record = wanted
    · have untouched :
          rest.map (fun record => if key record = wanted then change record else record) =
            rest := by
        refine (List.map_congr_left fun other member => ?_).trans (List.map_id rest)
        have distinct : key other ≠ wanted := fun equal =>
          unique.1 (same.trans equal.symm ▸ List.mem_map_of_mem (f := key) member)
        simp [distinct]
      simp [update, same, untouched]
    · simp [update, same, inductionHypothesis unique.2]

/-- Removing one key's pairs from an association list is not seen by the others. -/
theorem lookup_filter_ne {Value : Type*} {removed : Key} (different : asked ≠ removed)
    (pairs : List (Key × Value)) :
    (pairs.filter (fun pair => pair.1 ≠ removed)).lookup asked = pairs.lookup asked := by
  induction pairs with
  | nil => rfl
  | cons pair rest inductionHypothesis =>
    obtain ⟨name, value⟩ := pair
    by_cases same : name = removed
    · have skipped : (asked == name) = false := by simpa [same] using different
      rw [List.filter_cons_of_neg (by simpa using same), List.lookup_cons, skipped]
      exact inductionHypothesis
    · rw [List.filter_cons_of_pos (by simpa using same), List.lookup_cons, List.lookup_cons,
        inductionHypothesis]

end FirstMatch
