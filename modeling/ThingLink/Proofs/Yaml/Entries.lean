import ThingLink.Config.Document

/-!
# Entries read into a record

A mapping is read entry by entry, each into its field of a record.  An entry that was written for
a record has the value of its field there, so that reading it copies the field; a row of entries
copies the fields that it names and leaves the others alone, whichever entries are missing.
-/

namespace ThingLink.Yaml

open Text (decimal readUnsigned_decimal)

/-! ## Written integers -/

theorem head?_toDigits_ne_zero {n : Nat} (positive : 0 < n) :
    (Nat.toDigits 10 n).head? ≠ some '0' := by
  induction n using Nat.strongRecOn with
  | ind n inductionHypothesis =>
    by_cases small : n < 10
    · have table : ∀ d < 10, 0 < d → some (Nat.digitChar d) ≠ some '0' := by decide
      rw [Nat.toDigits_of_lt_base small]
      exact table n small positive
    · have higher := inductionHypothesis (n / 10) (by omega) (by omega)
      obtain ⟨first, rest, digits⟩ :=
        List.exists_cons_of_ne_nil (Nat.toDigits_ne_nil (b := 10) (n := n / 10))
      rw [Nat.toDigits_of_base_le (by decide) (by omega), digits]
      rw [digits] at higher
      exact higher

/-- A written number is digits, and begins with a zero only if there are no others. -/
theorem natural?_decimal {bound n : Nat} (fits : n < bound) :
    natural? bound (decimal n) = some n := by
  have letters : (decimal n).toList = Nat.toDigits 10 n := String.toList_ofList
  have read := readUnsigned_decimal fits
  obtain ⟨first, rest, digits⟩ := List.exists_cons_of_ne_nil (Nat.toDigits_ne_nil (b := 10) (n := n))
  have isDigit : first.isDigit = true :=
    Nat.isDigit_of_mem_toDigits (by decide) (by decide) (digits ▸ List.mem_cons_self)
  have noPlus : first ≠ '+' := by
    rintro rfl
    exact absurd isDigit (by decide)
  have noMinus : first ≠ '-' := by
    rintro rfl
    exact absurd isDigit (by decide)
  have leading : first ≠ '0' ∨ rest = [] := by
    rcases Nat.eq_zero_or_pos n with rfl | positive
    · exact .inr (List.cons.inj digits).2.symm
    · refine .inl fun zero => head?_toDigits_ne_zero positive ?_
      rw [digits, zero]
      rfl
  rw [letters, digits] at read
  rw [natural?, letters, digits]
  rcases leading with other | rfl
  · simp [hasLeadingZero, unsigned, noPlus, noMinus, other, read, Except.toOption]
  · simp [hasLeadingZero, unsigned, noPlus, noMinus, read, Except.toOption]

/-! ## Rows of entries -/

/-- An entry of a mapping, and what it does to a record that it is read into. -/
structure Row (σ : Type) where
  name : String
  content : Node
  copy : σ → σ

namespace Row

variable {σ α : Type}

def entry (row : Row σ) : Node × Node :=
  (.scalar (.plain row.name), row.content)

/-- A row is read by the setting of its name. -/
def Reads (settings : List (Setting σ)) (row : Row σ) : Prop :=
  ∃ setting, settings.find? (·.name = row.name) = some setting
    ∧ ∀ owner path record, setting.read owner path row.content record = .ok (row.copy record)

/-- Rows that some settings read, each row by another setting. -/
structure Legible (settings : List (Setting σ)) (rows : List (Row σ)) : Prop where
  reads : ∀ row ∈ rows, row.Reads settings
  distinct : (rows.map Row.name).Nodup

/-- A record with the fields of some rows over it. -/
def overlay (rows : List (Row σ)) (record : σ) : σ :=
  rows.foldl (fun record row => row.copy record) record

section Reading

variable {settings : List (Setting σ)} {rows : List (Row σ)}

theorem Legible.filter (legible : Legible settings rows) (kept : Row σ → Bool) :
    Legible settings (rows.filter kept) where
  reads row member := legible.reads row (List.mem_filter.mp member).1
  distinct := (List.filter_sublist.map Row.name).nodup legible.distinct

theorem Legible.readEntries (legible : Legible settings rows) (owner : String)
    (seen : List String) (unseen : ∀ row ∈ rows, row.name ∉ seen) (record : σ) :
    Yaml.readEntries owner settings seen record (rows.map Row.entry)
      = .ok (overlay rows record) := by
  induction rows generalizing seen record with
  | nil => rfl
  | cons row rows inductionHypothesis =>
    obtain ⟨setting, found, read⟩ := legible.reads row List.mem_cons_self
    obtain ⟨first, distinct⟩ := List.nodup_cons.mp legible.distinct
    have fresh : seen.contains row.name = false := by
      simpa using unseen row List.mem_cons_self
    -- a row behind this one has another name, and so has not been seen either
    have behind : ∀ other ∈ rows, other.name ∉ row.name :: seen := by
      intro other member again
      rcases List.mem_cons.mp again with same | earlier
      · exact first (same ▸ List.mem_map_of_mem member)
      · exact unseen other (List.mem_cons_of_mem row member) earlier
    have step : Yaml.readEntries owner settings seen record ((row :: rows).map Row.entry)
        = Yaml.readEntries owner settings (row.name :: seen) (row.copy record)
            (rows.map Row.entry) := by
      have key : Node.asText "field identifier" owner row.entry.1 = .ok row.name := rfl
      rw [List.map_cons, Yaml.readEntries, key]
      simp only [bind, Except.bind, found, fresh, Bool.false_eq_true, if_false, entry, read]
    rw [step]
    exact inductionHypothesis
      ⟨fun other member => legible.reads other (List.mem_cons_of_mem row member), distinct⟩
      (row.name :: seen) behind (row.copy record)

theorem Legible.readSection (legible : Legible settings rows) (kind path : String)
    (defaults : σ) :
    Yaml.readSection kind settings defaults path (.mapping (rows.map Row.entry))
      = .ok (overlay rows defaults) :=
  legible.readEntries path [] nofun defaults

end Reading

/-- In some rows, a name stands for a field and for the value that the field is to have. -/
structure Hold (rows : List (Row σ)) (name : String) (get : σ → α) (value : α) : Prop where
  named : name ∈ rows.map Row.name
  copies : ∀ row ∈ rows, ∀ record,
    get (row.copy record) = if row.name = name then value else get record

section Fields

variable {rows : List (Row σ)} {name : String} {get : σ → α} {value : α}

theorem get_overlay
    (copies : ∀ row ∈ rows, ∀ record,
      get (row.copy record) = if row.name = name then value else get record) (record : σ) :
    get (overlay rows record) = if name ∈ rows.map Row.name then value else get record := by
  induction rows generalizing record with
  | nil => rfl
  | cons row rows inductionHypothesis =>
    have first := copies row List.mem_cons_self record
    have rest := inductionHypothesis
      (fun other member => copies other (List.mem_cons_of_mem row member)) (row.copy record)
    rw [overlay, List.foldl_cons, ← overlay, rest, first]
    by_cases same : row.name = name
    · simp [same]
    · simp [same, Ne.symm same]

/-- A field has its value after the rows that are left if its row is, and else is as before. -/
theorem Hold.get_filter (holds : Hold rows name get value) (kept : String → Bool) (record : σ) :
    get (overlay (rows.filter fun row => kept row.name) record)
      = if kept name then value else get record := by
  rw [get_overlay fun row member => holds.copies row (List.mem_filter.mp member).1]
  have same : name ∈ (rows.filter fun row => kept row.name).map Row.name ↔ kept name = true := by
    simp only [List.mem_map, List.mem_filter]
    constructor
    · rintro ⟨row, ⟨-, keeps⟩, rfl⟩
      exact keeps
    · intro keeps
      obtain ⟨row, member, rfl⟩ := List.mem_map.mp holds.named
      exact ⟨row, ⟨member, keeps⟩, rfl⟩
  simp only [same]

end Fields

end Row

end ThingLink.Yaml
