import RecDtn.Lang.Python

namespace RecDtn.Lang.MessagePack

open Python List Option

/-- A value whose texts are of any type. The keys of a map are texts. -/
inductive Value (τ : Type) where
  | nil
  | bool (value : Bool)
  | int (number : Int)
  | str (text : τ)
  | bin (data : List UInt8)
  | array (items : List (Value τ))
  | dict (entries : List (τ × Value τ))

variable {τ σ : Type}

mutual

def Value.mapText (form : τ → σ) : Value τ → Value σ
  | .nil => .nil
  | .bool value => .bool value
  | .int number => .int number
  | .str text => .str (form text)
  | .bin data => .bin data
  | .array items => .array (mapItems form items)
  | .dict entries => .dict (mapEntries form entries)

def mapItems (form : τ → σ) : List (Value τ) → List (Value σ)
  | [] => []
  | item :: rest => item.mapText form :: mapItems form rest

def mapEntries (form : τ → σ) : List (τ × Value τ) → List (σ × Value σ)
  | [] => []
  | (key, value) :: rest => (form key, value.mapText form) :: mapEntries form rest

end

mutual

theorem Value.mapText_id : ∀ value : Value τ, value.mapText id = value
  | .nil | .bool _ | .int _ | .str _ | .bin _ => rfl
  | .array items => by rw [Value.mapText, mapItems_id items]
  | .dict entries => by rw [Value.mapText, mapEntries_id entries]

theorem mapItems_id : ∀ items : List (Value τ), mapItems id items = items
  | [] => rfl
  | item :: rest => by rw [mapItems, Value.mapText_id item, mapItems_id rest]

theorem mapEntries_id : ∀ entries : List (τ × Value τ), mapEntries id entries = entries
  | [] => rfl
  | (key, value) :: rest => by
    rw [mapEntries, Value.mapText_id value, mapEntries_id rest]
    rfl

end

theorem mapItems_eq (form : τ → σ) (items : List (Value τ)) :
    mapItems form items = items.map (Value.mapText form) := by
  induction items with
  | nil => rfl
  | cons item rest ih => rw [mapItems, ih, map_cons]

theorem length_mapEntries (form : τ → σ) (entries : List (τ × Value τ)) :
    (mapEntries form entries).length = entries.length := by
  induction entries with
  | nil => rfl
  | cons entry rest ih => rw [mapEntries, length_cons, ih, length_cons]

def record (fields : List (τ × Option (Value τ))) : List (τ × Value τ) :=
  fields.filterMap fun field => field.2.map (field.1, ·)

@[simp] theorem record_some (key : τ) (value : Value τ) (rest : List (τ × Option (Value τ))) :
    record ((key, some value) :: rest) = (key, value) :: record rest := rfl

theorem mapEntries_record (form : τ → σ) (fields : List (τ × Option (Value τ))) :
    mapEntries form (record fields) =
      record (fields.map fun field => (form field.1, field.2.map (Value.mapText form))) := by
  induction fields with
  | nil => rfl
  | cons field rest ih =>
    obtain ⟨key, value⟩ := field
    cases value with
    | none => exact ih
    | some value => exact congrArg ((form key, value.mapText form) :: ·) ih

section Lookup

theorem nodup_record (distinct : (fields.map Prod.fst).Nodup) :
    ((record fields).map Prod.fst).Nodup := by
  have fewer : ((record fields).map Prod.fst).Sublist (fields.map Prod.fst) := by
    clear distinct
    induction fields with
    | nil => exact .slnil
    | cons field rest ih =>
      obtain ⟨key, value⟩ := field
      cases value with
      | none => exact ih.cons _
      | some value => exact ih.cons_cons key
  exact distinct.sublist fewer

variable [DecidableEq τ] [DecidableEq σ]

/-- What a key stands for. Of two entries the later one counts. -/
def find (key : τ) : List (τ × Value τ) → Option (Value τ)
  | [] => none
  | (other, value) :: rest => (find key rest).or (if other = key then some value else none)

/-- `entries[key] = value`: a key that is there keeps its place. -/
def setItem (key : τ) (value : Value τ) : List (τ × Value τ) → List (τ × Value τ)
  | [] => [(key, value)]
  | (other, old) :: rest =>
    if other = key then (key, value) :: rest else (other, old) :: setItem key value rest

variable {key : τ} {entries : List (τ × Value τ)} {value : Value τ}
  {fields : List (τ × Option (Value τ))}

theorem find_eq_none (absent : ∀ entry ∈ entries, entry.1 ≠ key) : find key entries = none := by
  induction entries with
  | nil => rfl
  | cons entry rest ih =>
    rw [find, ih fun other member => absent other (mem_cons_of_mem _ member), none_or]
    exact if_neg (absent entry mem_cons_self)

omit [DecidableEq τ] in
theorem mem_record : (key, value) ∈ record fields ↔ (key, some value) ∈ fields := by
  simp only [record, mem_filterMap, map_eq_some_iff, Prod.mk.injEq]
  constructor
  · rintro ⟨⟨_, _⟩, member, _, rfl, rfl, rfl⟩
    exact member
  · intro member
    exact ⟨_, member, value, rfl, rfl, rfl⟩

/-- A field of a record whose names are distinct is found under its name. -/
theorem find_record (distinct : (fields.map Prod.fst).Nodup) {value : Option (Value τ)}
    (member : (key, value) ∈ fields) : find key (record fields) = value := by
  induction fields with
  | nil => cases member
  | cons field rest ih =>
    obtain ⟨other, held⟩ := field
    obtain ⟨fresh, others⟩ := nodup_cons.mp distinct
    rcases mem_cons.mp member with same | later
    · cases same
      have absent : find key (record rest) = none := by
        apply find_eq_none
        rintro ⟨_, _⟩ entry rfl
        exact fresh (mem_map.mpr ⟨_, mem_record.mp entry, rfl⟩)
      cases value with
      | none => exact absent
      | some value => rw [record_some, find, absent, if_pos rfl, none_or]
    · have apart : other ≠ key := by
        rintro rfl
        exact fresh (mem_map.mpr ⟨_, later, rfl⟩)
      cases held with
      | none => exact ih others later
      | some old => rw [record_some, find, ih others later, if_neg apart, or_none]

theorem find_setItem (distinct : (entries.map Prod.fst).Nodup) (other : τ) :
    find other (setItem key value entries) = if key = other then some value
      else find other entries := by
  induction entries with
  | nil => rfl
  | cons entry rest ih =>
    obtain ⟨first, old⟩ := entry
    obtain ⟨fresh, distinct⟩ := nodup_cons.mp distinct
    rw [setItem]
    split
    · rename_i same
      subst same
      rw [find, find]
      split
      · rename_i here
        subst here
        have absent : find first rest = none := by
          apply find_eq_none
          rintro ⟨_, _⟩ member rfl
          exact fresh (mem_map.mpr ⟨_, member, rfl⟩)
        rw [absent, none_or]
      · rfl
    · rename_i apart
      rw [find, ih distinct, find]
      split
      · rename_i here
        rw [← here, if_neg apart, or_none]
      · rfl

omit [DecidableEq τ] in
theorem key_of_record (member : key ∈ (record fields).map Prod.fst) :
    key ∈ fields.map Prod.fst := by
  obtain ⟨⟨name, value⟩, listed, rfl⟩ := mem_map.mp member
  exact mem_map.mpr ⟨_, mem_record.mp listed, rfl⟩

theorem keys_setItem (key : τ) (value : Value τ) (entries : List (τ × Value τ)) :
    (setItem key value entries).map Prod.fst =
      if key ∈ entries.map Prod.fst then entries.map Prod.fst else entries.map Prod.fst ++ [key] := by
  induction entries with
  | nil => rfl
  | cons entry rest ih =>
    obtain ⟨other, old⟩ := entry
    rw [setItem, map_cons]
    by_cases same : other = key
    · rw [if_pos same, if_pos (by simp [same]), map_cons, same]
    · rw [if_neg same, map_cons, ih]
      by_cases later : key ∈ rest.map Prod.fst
      · rw [if_pos later, if_pos (mem_cons_of_mem _ later)]
      · have absent : key ∉ other :: rest.map Prod.fst := by
          intro member
          rcases mem_cons.mp member with equal | found
          · exact same equal.symm
          · exact later found
        rw [if_neg later, if_neg absent, cons_append]

theorem key_of_setItem {other : τ} (member : other ∈ (setItem key value entries).map Prod.fst) :
    other = key ∨ other ∈ entries.map Prod.fst := by
  rw [keys_setItem] at member
  split at member
  · exact .inr member
  · rcases mem_append.mp member with before | last
    · exact .inr before
    · exact .inl (mem_singleton.mp last)

/-- Entries are found under their keys in another form as well. -/
theorem find_mapEntries {form : τ → σ} (injective : Function.Injective form) (key : τ)
    (entries : List (τ × Value τ)) :
    find (form key) (mapEntries form entries) = (find key entries).map (Value.mapText form) := by
  induction entries with
  | nil => rfl
  | cons entry rest ih =>
    obtain ⟨other, value⟩ := entry
    rw [mapEntries, find, ih, find]
    by_cases same : other = key
    · rw [if_pos same, if_pos (congrArg form same)]
      cases find key rest with
      | none => rfl
      | some later => rfl
    · rw [if_neg same, if_neg (injective.ne same), or_none, or_none]

end Lookup

/-- The library of Python, whose texts are characters, and that of Go, whose
texts are bytes. A field of type `uint8` takes a number in its own way. -/
class Libraries where
  packb : Value Str → List UInt8
  unpackb : List UInt8 → Except String (Value Str)
  marshal : Value (List UInt8) → List UInt8
  unmarshal : List UInt8 → Except String (Value (List UInt8))
  uint8 : Int → Except String UInt8
  unmarshal_packb : ∀ value, unmarshal (packb value) = .ok (value.mapText utf8)
  unmarshal_marshal : ∀ value, unmarshal (marshal value) = .ok value
  unpackb_marshal : ∀ value, unpackb (marshal (value.mapText utf8)) = .ok value
  uint8_toNat : ∀ number : UInt8, uint8 number.toNat = .ok number

/-- The library of Python reads what it writes. -/
class Ormsgpack [Libraries] : Prop where
  unpackb_packb : ∀ value, Libraries.unpackb (Libraries.packb value) = .ok value

namespace Tagged

/-- As many ones as the number says. -/
def natCode (number : Nat) : List UInt8 := List.replicate number 1 ++ [0]

def dataCode (data : List UInt8) : List UInt8 := natCode data.length ++ data

mutual

/-- A tag, and the content behind its length. -/
def encode (form : τ → List UInt8) : Value τ → List UInt8
  | .nil => [0]
  | .bool value => [if value then 1 else 2]
  | .int number => (if number < 0 then 3 else 4) :: natCode number.natAbs
  | .str text => 5 :: dataCode (form text)
  | .bin data => 6 :: dataCode data
  | .array items => 7 :: (natCode items.length ++ encodeItems form items)
  | .dict entries => 8 :: (natCode entries.length ++ encodeEntries form entries)

def encodeItems (form : τ → List UInt8) : List (Value τ) → List UInt8
  | [] => []
  | item :: rest => encode form item ++ encodeItems form rest

def encodeEntries (form : τ → List UInt8) : List (τ × Value τ) → List UInt8
  | [] => []
  | (key, value) :: rest => dataCode (form key) ++ (encode form value ++ encodeEntries form rest)

end

def readNat : List UInt8 → Option (Nat × List UInt8)
  | [] => none
  | digit :: rest => if digit = 0 then some (0, rest) else (readNat rest).map fun read =>
    (read.1 + 1, read.2)

def readData (input : List UInt8) : Option (List UInt8 × List UInt8) :=
  (readNat input).map fun read => read.2.splitAt read.1

def readText (parse : List UInt8 → Option τ) (input : List UInt8) : Option (τ × List UInt8) := do
  let (data, rest) ← readData input
  return (← parse data, rest)

def times {α : Type} (read : List UInt8 → Option (α × List UInt8)) :
    Nat → List UInt8 → Option (List α × List UInt8)
  | 0, input => some ([], input)
  | count + 1, input => do
    let (item, rest) ← read input
    let (items, rest) ← times read count rest
    return (item :: items, rest)

def readEntry (parse : List UInt8 → Option τ)
    (read : List UInt8 → Option (Value τ × List UInt8))
    (input : List UInt8) : Option ((τ × Value τ) × List UInt8) := do
  let (key, rest) ← readText parse input
  let (value, rest) ← read rest
  return ((key, value), rest)

def decode (parse : List UInt8 → Option τ) : Nat → List UInt8 → Option (Value τ × List UInt8)
  | 0, _ => none
  | _, [] => none
  | fuel + 1, tag :: rest =>
    if tag = 0 then some (.nil, rest)
    else if tag = 1 then some (.bool true, rest)
    else if tag = 2 then some (.bool false, rest)
    else if tag = 3 then (readNat rest).map fun read => (.int (-read.1), read.2)
    else if tag = 4 then (readNat rest).map fun read => (.int read.1, read.2)
    else if tag = 5 then (readText parse rest).map fun read => (.str read.1, read.2)
    else if tag = 6 then (readData rest).map fun read => (.bin read.1, read.2)
    else if tag = 7 then do
      let (count, rest) ← readNat rest
      let (items, rest) ← times (decode parse fuel) count rest
      return (.array items, rest)
    else do
      let (count, rest) ← readNat rest
      let (entries, rest) ← times (readEntry parse (decode parse fuel)) count rest
      return (.dict entries, rest)

def read (parse : List UInt8 → Option τ) (input : List UInt8) : Except String (Value τ) :=
  match decode parse input.length input with
  | some (value, []) => .ok value
  | _ => .error "malformed"

theorem readNat_natCode (number : Nat) (rest : List UInt8) :
    readNat (natCode number ++ rest) = some (number, rest) := by
  induction number with
  | zero => rfl
  | succ number ih =>
    change (readNat (natCode number ++ rest)).map _ = _
    rw [ih]
    rfl

theorem readData_dataCode (data rest : List UInt8) :
    readData (dataCode data ++ rest) = some (data, rest) := by
  rw [readData, dataCode, append_assoc, readNat_natCode, map_some, splitAt_eq, take_left,
    drop_left]

section

variable {form : τ → List UInt8} {parse : List UInt8 → Option σ} {convert : τ → σ}

theorem readText_dataCode (reads : ∀ text, parse (form text) = some (convert text)) (text : τ)
    (rest : List UInt8) :
    readText parse (dataCode (form text) ++ rest) = some (convert text, rest) := by
  rw [readText, readData_dataCode, bind_eq_bind, bind_some]
  dsimp only
  rw [reads]
  rfl

mutual

/-- What follows a value is left over. -/
theorem decode_encode (reads : ∀ text, parse (form text) = some (convert text)) :
    ∀ (value : Value τ) (fuel : Nat) (rest : List UInt8), (encode form value).length ≤ fuel →
      decode parse fuel (encode form value ++ rest) = some (value.mapText convert, rest)
  | value, 0, rest, enough => by
    cases value with
    | _ => cases enough
  | .nil, fuel + 1, rest, enough => rfl
  | .bool value, fuel + 1, rest, enough => by
    cases value with
    | false => rfl
    | true => rfl
  | .int number, fuel + 1, rest, enough => by
    by_cases negative : number < 0
    · have same : -(number.natAbs : Int) = number := by omega
      rw [encode, if_pos negative, cons_append]
      change (readNat (natCode number.natAbs ++ rest)).map _ = _
      rw [readNat_natCode, map_some, same]
      rfl
    · have same : (number.natAbs : Int) = number := by omega
      rw [encode, if_neg negative, cons_append]
      change (readNat (natCode number.natAbs ++ rest)).map _ = _
      rw [readNat_natCode, map_some, same]
      rfl
  | .str text, fuel + 1, rest, enough => by
    change (readText parse (dataCode (form text) ++ rest)).map _ = _
    rw [readText_dataCode reads]
    rfl
  | .bin data, fuel + 1, rest, enough => by
    change (readData (dataCode data ++ rest)).map _ = _
    rw [readData_dataCode]
    rfl
  | .array items, fuel + 1, rest, enough => by
    rw [encode, length_cons, length_append] at enough
    have inner := times_encodeItems reads items fuel rest (by omega)
    rw [encode, cons_append, append_assoc]
    change (readNat (natCode items.length ++ (encodeItems form items ++ rest))).bind _ = _
    rw [readNat_natCode, bind_some, bind_eq_bind]
    dsimp only
    rw [inner]
    rfl
  | .dict entries, fuel + 1, rest, enough => by
    rw [encode, length_cons, length_append] at enough
    have inner := times_encodeEntries reads entries fuel rest (by omega)
    rw [encode, cons_append, append_assoc]
    change (readNat (natCode entries.length ++ (encodeEntries form entries ++ rest))).bind _ = _
    rw [readNat_natCode, bind_some, bind_eq_bind]
    dsimp only
    rw [inner]
    rfl

theorem times_encodeItems (reads : ∀ text, parse (form text) = some (convert text)) :
    ∀ (items : List (Value τ)) (fuel : Nat) (rest : List UInt8),
      (encodeItems form items).length ≤ fuel →
      times (decode parse fuel) items.length (encodeItems form items ++ rest) = some (mapItems convert items, rest)
  | [], fuel, rest, enough => rfl
  | item :: items, fuel, rest, enough => by
    rw [encodeItems, length_append] at enough
    have first := decode_encode reads item fuel (encodeItems form items ++ rest) (by omega)
    have later := times_encodeItems reads items fuel rest (by omega)
    rw [encodeItems, append_assoc, length_cons, times, first, bind_eq_bind, bind_some]
    dsimp only
    rw [later]
    rfl

theorem times_encodeEntries (reads : ∀ text, parse (form text) = some (convert text)) :
    ∀ (entries : List (τ × Value τ)) (fuel : Nat) (rest : List UInt8),
      (encodeEntries form entries).length ≤ fuel →
      times (readEntry parse (decode parse fuel)) entries.length
        (encodeEntries form entries ++ rest) = some (mapEntries convert entries, rest)
  | [], fuel, rest, enough => rfl
  | (key, value) :: entries, fuel, rest, enough => by
    rw [encodeEntries, length_append, length_append] at enough
    have first := decode_encode reads value fuel (encodeEntries form entries ++ rest) (by omega)
    have later := times_encodeEntries reads entries fuel rest (by omega)
    have entry : readEntry parse (decode parse fuel)
        (dataCode (form key) ++ (encode form value ++ (encodeEntries form entries ++ rest))) =
          some ((convert key, value.mapText convert), encodeEntries form entries ++ rest) := by
      rw [readEntry, readText_dataCode reads, bind_eq_bind, bind_some]
      dsimp only
      rw [first]
      rfl
    rw [encodeEntries, append_assoc, append_assoc, length_cons, times, entry, bind_eq_bind,
      bind_some]
    dsimp only
    rw [later]
    rfl

end

theorem read_encode (reads : ∀ text, parse (form text) = some (convert text)) (value : Value τ) :
    read parse (encode form value) = .ok (value.mapText convert) := by
  have whole := decode_encode reads value _ [] (Nat.le_refl _)
  rw [append_nil] at whole
  rw [read, whole]

end

mutual

theorem encode_mapText (form : σ → List UInt8) (convert : τ → σ) :
    ∀ value : Value τ, encode form (value.mapText convert) = encode (form ∘ convert) value
  | .nil | .bool _ | .int _ | .str _ | .bin _ => rfl
  | .array items => by
    rw [Value.mapText, encode, encode, encodeItems_mapItems, mapItems_eq, length_map]
  | .dict entries => by
    rw [Value.mapText, encode, encode, encodeEntries_mapEntries, length_mapEntries]

theorem encodeItems_mapItems (form : σ → List UInt8) (convert : τ → σ) :
    ∀ items : List (Value τ), encodeItems form (mapItems convert items) =
      encodeItems (form ∘ convert) items
  | [] => rfl
  | item :: rest => by
    rw [mapItems, encodeItems, encodeItems, encode_mapText form convert item,
      encodeItems_mapItems form convert rest]

theorem encodeEntries_mapEntries (form : σ → List UInt8) (convert : τ → σ) :
    ∀ entries : List (τ × Value τ), encodeEntries form (mapEntries convert entries) =
      encodeEntries (form ∘ convert) entries
  | [] => rfl
  | (key, value) :: rest => by
    rw [mapEntries, encodeEntries, encodeEntries, encode_mapText form convert value,
      encodeEntries_mapEntries form convert rest]
    rfl

end

end Tagged

/-- Texts are written as bytes. -/
@[reducible] def Libraries.tagged : Libraries where
  packb := Tagged.encode utf8
  unpackb := Tagged.read decodeUtf8
  marshal := Tagged.encode id
  unmarshal := Tagged.read some
  uint8 number := .ok (UInt8.ofNat number.toNat)
  unmarshal_packb := Tagged.read_encode fun _ => rfl
  unmarshal_marshal value := by
    rw [Tagged.read_encode (fun _ => rfl), Value.mapText_id]
  unpackb_marshal value := by
    have texts : ∀ text : Str, decodeUtf8 (utf8 text) = some (id text) := decodeUtf8_utf8
    rw [Tagged.encode_mapText, Function.id_comp, Tagged.read_encode texts, Value.mapText_id]
  uint8_toNat number := by
    rw [Int.toNat_natCast, UInt8.ofNat_toNat]

theorem Libraries.tagged_ormsgpack : @Ormsgpack Libraries.tagged :=
  @Ormsgpack.mk Libraries.tagged (by
    intro value
    have texts : ∀ text : Str, decodeUtf8 (utf8 text) = some (id text) := decodeUtf8_utf8
    change Tagged.read decodeUtf8 (Tagged.encode utf8 value) = .ok value
    rw [Tagged.read_encode texts, Value.mapText_id])

end RecDtn.Lang.MessagePack

namespace RecDtn.Samples

attribute [scoped instance] Lang.MessagePack.Libraries.tagged Lang.MessagePack.Libraries.tagged_ormsgpack

end RecDtn.Samples
