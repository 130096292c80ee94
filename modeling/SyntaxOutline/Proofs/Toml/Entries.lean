import SyntaxOutline.Proofs.Json.Outcome
import SyntaxOutline.Toml.Document

/-!
# Changing entries

Every operation of the reader changes the entry of one name, or makes one (`Entries.alter`). So an
operation along a path can be followed name by name.
-/

namespace SyntaxOutline.Toml

/-! ## Looking up a name -/

section

variable {entries : Entries} {name : String} {entry : Entry Value}

theorem key_of_get? (h : entries.get? name = some entry) : entry.key = name := by
  have hfound := List.find?_some h
  exact eq_of_beq hfound

theorem get?_key (h : entries.get? name = some entry) : entries.get? entry.key = some entry := by
  rw [key_of_get? h, h]

theorem get?_cons (e : Entry Value) :
    Entries.get? (e :: entries) name = if e.key = name then some e else entries.get? name := by
  rw [Entries.get?, List.find?_cons]
  by_cases hkey : e.key = name
  · simp [hkey]
  · rw [beq_false_of_ne hkey, if_neg hkey]
    rfl

theorem get?_append_self (hnew : entries.get? entry.key = none) :
    Entries.get? (entries ++ [entry]) entry.key = some entry := by
  rw [Entries.get?] at hnew ⊢
  rw [List.find?_append, hnew]
  simp

theorem get?_append_of_ne (hne : entry.key ≠ name) :
    Entries.get? (entries ++ [entry]) name = entries.get? name := by
  simp [Entries.get?, hne]

theorem replace_cons (e : Entry Value) : Entries.replace (e :: entries) entry =
    (if e.key = entry.key then entry else e) :: Entries.replace entries entry := by
  simp [Entries.replace]

theorem get?_replace_of_ne (hne : entry.key ≠ name) :
    (entries.replace entry).get? name = entries.get? name := by
  induction entries with
  | nil => rfl
  | cons e entries ih =>
    rw [replace_cons, get?_cons, get?_cons, ih]
    by_cases hkey : e.key = entry.key
    · have hne' : e.key ≠ name := hkey ▸ hne
      rw [if_pos hkey, if_neg hne, if_neg hne']
    · rw [if_neg hkey]

theorem get?_replace_self (h : entries.get? entry.key ≠ none) :
    (entries.replace entry).get? entry.key = some entry := by
  induction entries with
  | nil => exact absurd rfl h
  | cons e entries ih =>
    rw [replace_cons, get?_cons]
    by_cases hkey : e.key = entry.key
    · rw [if_pos hkey, if_pos rfl]
    · rw [get?_cons, if_neg hkey] at h
      rw [if_neg hkey, if_neg hkey, ih h]

end

/-! ## Changing the entry of a name -/

namespace Entries

/-- Puts an entry in place of the one with its key, or behind the others if there is none. -/
def put (entries : Entries) (entry : Entry Value) : Entries :=
  match entries.get? entry.key with
  | none => entries ++ [entry]
  | some _ => entries.replace entry

/-- Changes the entry of a name, or makes one. -/
def alter (name : String) (change : Option (Entry Value) → Except Cause (Entry Value))
    (entries : Entries) : Except Cause Entries :=
  (change (entries.get? name)).map entries.put

/-- Adds the entry of a key and its value. -/
def fresh (key : Key) (value : Located Value) : Option (Entry Value) → Except Cause (Entry Value)
  | none => .ok ⟨key.name, key.region, value.region, value.value⟩
  | some _ => .error (.duplicateKey key.name)

/-- Goes on inside the table of a name, or inside the last table of its list. A table that is
missing is made. -/
def inside (part : Key) (made : Origin) (enters : Origin → Bool) (entersList : Bool)
    (op : Entries → Except Cause Entries) : Option (Entry Value) → Except Cause (Entry Value)
  | none => do return ⟨part.name, part.region, part.region, .table made (← op [])⟩
  | some entry =>
    match entry.value with
    | .table origin inner =>
      if enters origin then do return { entry with value := .table origin (← op inner) }
      else .error (.duplicateKey part.name)
    | .array true items =>
      if entersList then do
        return { entry with
          value := .array true (← changeLast op (.duplicateKey part.name) items) }
      else .error (.duplicateKey part.name)
    | _ => .error (.duplicateKey part.name)

/-- Makes the table of a header, or takes one over that was implied. -/
def opened (key : Key) (region : Region) : Option (Entry Value) → Except Cause (Entry Value)
  | none => .ok ⟨key.name, key.region, region, .table .header []⟩
  | some entry =>
    match entry.value with
    | .table .implied inner => .ok ⟨key.name, key.region, region, .table .header inner⟩
    | _ => .error (.duplicateKey key.name)

/-- Makes a list of one table, or adds a table to a list. -/
def listed (key : Key) (region : Region) : Option (Entry Value) → Except Cause (Entry Value)
  | none => .ok ⟨key.name, key.region, region, .array true [⟨region, .table .header []⟩]⟩
  | some entry =>
    match entry.value with
    | .array true items =>
      .ok { entry with value := .array true (items ++ [⟨region, .table .header []⟩]) }
    | _ => .error (.duplicateKey key.name)

end Entries

section

variable {entries : Entries} {name : String} {entry : Entry Value}

theorem get?_put_self (entry : Entry Value) : (entries.put entry).get? entry.key = some entry := by
  rw [Entries.put]
  split
  · rename_i hnew
    exact get?_append_self hnew
  · rename_i hold
    exact get?_replace_self (by simp [hold])

theorem get?_put_of_ne (hne : entry.key ≠ name) :
    (entries.put entry).get? name = entries.get? name := by
  rw [Entries.put]
  split
  · exact get?_append_of_ne hne
  · exact get?_replace_of_ne hne

theorem alter_eq_ok {change : Option (Entry Value) → Except Cause (Entry Value)}
    (h : change (entries.get? name) = .ok entry) :
    entries.alter name change = .ok (entries.put entry) := by
  rw [Entries.alter, h]
  rfl

end

section

variable {entries : Entries} {part key : Key} {path : List Key} {value : Located Value}
  {region : Region} {change op : Entries → Except Cause Entries}

theorem put_of_new {entry : Entry Value} (hnew : entries.get? entry.key = none) :
    entries.put entry = entries ++ [entry] := by
  rw [Entries.put, hnew]

theorem put_of_old {entry old : Entry Value} (hold : entries.get? entry.key = some old) :
    entries.put entry = entries.replace entry := by
  rw [Entries.put, hold]

theorem insert_nil :
    Entries.insert [] key value = Entries.alter key.name (Entries.fresh key value) := by
  funext entries
  rw [Entries.insert, Entries.addNew, Entries.alter]
  cases hget : entries.get? key.name with
  | none => exact congrArg Except.ok (put_of_new hget).symm
  | some old => rfl

theorem insert_cons : Entries.insert (part :: path) key value =
    Entries.alter part.name (Entries.inside part .dotted
      (fun origin => origin = .dotted ∨ (origin = .implied ∧ path.length ≠ 0)) (path.length ≠ 0)
      (Entries.insert path key value)) := by
  funext entries
  rw [Entries.insert, Entries.alter]
  cases hget : entries.get? part.name with
  | none =>
    rw [Entries.inside]
    cases Entries.insert path key value [] with
    | error cause => rfl
    | ok inner => exact congrArg Except.ok (put_of_new hget).symm
  | some old =>
    obtain ⟨name, keyRegion, region, found⟩ := old
    have hold : entries.get? name = some ⟨name, keyRegion, region, found⟩ := get?_key hget
    cases found with
    | table origin inner =>
      dsimp only [Entries.inside]
      by_cases henters : origin = .dotted ∨ (origin = .implied ∧ path.length ≠ 0)
      · rw [if_pos henters, if_pos (decide_eq_true henters)]
        cases Entries.insert path key value inner with
        | error cause => rfl
        | ok inner' => exact congrArg Except.ok (put_of_old hold).symm
      · rw [if_neg henters, if_neg (by simpa using henters)]
        rfl
    | array extensible items =>
      cases extensible with
      | false => rfl
      | true =>
        dsimp only [Entries.inside]
        by_cases hlast : path.length = 0
        · simp [hlast, Except.map]
        · rw [if_neg hlast, if_pos (decide_eq_true hlast)]
          cases changeLast (Entries.insert path key value) (.duplicateKey part.name) items with
          | error cause => rfl
          | ok items' => exact congrArg Except.ok (put_of_old hold).symm
    | _ => rfl

theorem within_cons : Entries.within change (part :: path) =
    Entries.alter part.name (Entries.inside part .implied (fun origin => origin ≠ .inline) true
      (Entries.within change path)) := by
  funext entries
  rw [Entries.within, Entries.alter]
  cases hget : entries.get? part.name with
  | none =>
    rw [Entries.inside]
    cases Entries.within change path [] with
    | error cause => rfl
    | ok inner => exact congrArg Except.ok (put_of_new hget).symm
  | some old =>
    obtain ⟨name, keyRegion, region, found⟩ := old
    have hold : entries.get? name = some ⟨name, keyRegion, region, found⟩ := get?_key hget
    cases found with
    | table origin inner =>
      dsimp only [Entries.inside]
      by_cases hinline : origin = .inline
      · simp [hinline, Except.map]
      · rw [if_neg hinline, if_pos (decide_eq_true hinline)]
        cases Entries.within change path inner with
        | error cause => rfl
        | ok inner' => exact congrArg Except.ok (put_of_old hold).symm
    | array extensible items =>
      cases extensible with
      | false => rfl
      | true =>
        dsimp only [Entries.inside]
        rw [if_pos rfl]
        cases changeLast (Entries.within change path) (.duplicateKey part.name) items with
        | error cause => rfl
        | ok items' => exact congrArg Except.ok (put_of_old hold).symm
    | _ => rfl

theorem openTable_eq :
    Entries.openTable key region = Entries.alter key.name (Entries.opened key region) := by
  funext entries
  rw [Entries.openTable, Entries.alter]
  cases hget : entries.get? key.name with
  | none => exact congrArg Except.ok (put_of_new hget).symm
  | some old =>
    obtain ⟨name, keyRegion, region, found⟩ := old
    cases found with
    | table origin inner =>
      cases origin with
      | implied => exact congrArg Except.ok (put_of_old hget).symm
      | _ => rfl
    | _ => rfl

theorem openItem_eq :
    Entries.openItem key region = Entries.alter key.name (Entries.listed key region) := by
  funext entries
  rw [Entries.openItem, Entries.alter]
  cases hget : entries.get? key.name with
  | none => exact congrArg Except.ok (put_of_new hget).symm
  | some old =>
    obtain ⟨name, keyRegion, region, found⟩ := old
    have hold : entries.get? name = some ⟨name, keyRegion, region, found⟩ := get?_key hget
    cases found with
    | array extensible items =>
      cases extensible with
      | false => rfl
      | true => exact congrArg Except.ok (put_of_old hold).symm
    | _ => rfl

end

end SyntaxOutline.Toml
