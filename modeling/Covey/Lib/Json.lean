import Mathlib.Data.List.Sort
import Mathlib.Data.Nat.Digits.Lemmas
import Mathlib.Data.String.Basic

/-!
# Canonical JSON

JSON values, and their canonical text: no blanks, the keys of an object in order, strings with
the escapes of `serde_json`. A number is known by its rendering.

The text is read off from the front. Every value ends where its text says so, except a number,
which ends where a character follows that no number has.

* `Json.encode_injective`: the text determines the value, order of the keys included.
* `Json.canonical_eq_iff`: the canonical text determines the value up to the order of the keys.
* `Json.canonical_eq_iff_same`: the same, with the order of the keys ignored in so many words, for
  values whose objects are maps.
-/

/-! ## Values -/

/-- The characters of a rendered number. -/
def isNumberChar (c : Char) : Bool :=
  c.isDigit || c == '-' || c == '+' || c == '.' || c == 'e' || c == 'E'

/-- A number, as its rendering. -/
structure JsonNumber where
  text : List Char
  nonempty : text ≠ []
  chars : text.all isNumberChar = true
deriving DecidableEq

inductive Json
  | null
  | bool (b : Bool)
  | num (n : JsonNumber)
  | str (s : String)
  | arr (items : List Json)
  | obj (fields : List (String × Json))

namespace Json

/-! ## Strings -/

/-- The digit of a number below 16. -/
def hexDigit (n : ℕ) : Char := if n < 10 then Char.ofNat (48 + n) else Char.ofNat (87 + n)

/-- A character of a string, escaped if it has to be. -/
def encodeChar (c : Char) : List Char :=
  if c = '"' then ['\\', '"']
  else if c = '\\' then ['\\', '\\']
  else if c = '\n' then ['\\', 'n']
  else if c = '\r' then ['\\', 'r']
  else if c = '\t' then ['\\', 't']
  else if c.toNat = 8 then ['\\', 'b']
  else if c.toNat = 12 then ['\\', 'f']
  else if c.toNat < 32 then
    ['\\', 'u', '0', '0', hexDigit (c.toNat / 16), hexDigit (c.toNat % 16)]
  else [c]

def encodeString (s : String) : List Char := '"' :: (s.toList.flatMap encodeChar ++ ['"'])

/-- The number of a hexadecimal digit. -/
def hexValue (c : Char) : ℕ := if c.toNat < 58 then c.toNat - 48 else c.toNat - 87

/-- Reads one character of a string. -/
def decodeChar : List Char → Option (Char × List Char)
  | '\\' :: 'n' :: rest => some ('\n', rest)
  | '\\' :: 'r' :: rest => some ('\r', rest)
  | '\\' :: 't' :: rest => some ('\t', rest)
  | '\\' :: 'b' :: rest => some (Char.ofNat 8, rest)
  | '\\' :: 'f' :: rest => some (Char.ofNat 12, rest)
  | '\\' :: 'u' :: '0' :: '0' :: a :: b :: rest =>
    some (Char.ofNat (16 * hexValue a + hexValue b), rest)
  | '\\' :: c :: rest => some (c, rest)
  | c :: rest => some (c, rest)
  | [] => none

/-- A control character is read back. -/
theorem decodeChar_control {c : Char} (hc : c.toNat < 32) (rest : List Char) :
    decodeChar (encodeChar c ++ rest) = some (c, rest) := by
  have hof : c = Char.ofNat c.toNat := (Char.ofNat_toNat c).symm
  generalize c.toNat = n at hc hof
  subst hof
  interval_cases n <;> rfl

theorem decodeChar_encodeChar (c : Char) (rest : List Char) :
    decodeChar (encodeChar c ++ rest) = some (c, rest) := by
  by_cases hcontrol : c.toNat < 32
  · exact decodeChar_control hcontrol rest
  by_cases hquote : c = '"'
  · subst hquote
    rfl
  by_cases hback : c = '\\'
  · subst hback
    rfl
  have hplain : encodeChar c = [c] := by
    unfold encodeChar
    rw [if_neg hquote, if_neg hback, if_neg, if_neg, if_neg, if_neg, if_neg, if_neg hcontrol]
    · omega
    · omega
    · rintro rfl
      exact hcontrol (by decide)
    · rintro rfl
      exact hcontrol (by decide)
    · rintro rfl
      exact hcontrol (by decide)
  rw [hplain]
  show decodeChar (c :: rest) = some (c, rest)
  unfold decodeChar
  split <;> simp_all

/-- No character's text starts with the quote that ends a string. -/
theorem encodeChar_ne_quote (c : Char) (rest rest' : List Char) :
    encodeChar c ++ rest ≠ '"' :: rest' := by
  unfold encodeChar
  split_ifs with h <;> simp
  exact fun heq => absurd heq h

/-- A string ends with its closing quote. -/
theorem encodeChars_inj {l l' : List Char} {r r' : List Char}
    (h : l.flatMap encodeChar ++ '"' :: r = l'.flatMap encodeChar ++ '"' :: r') :
    l = l' ∧ r = r' := by
  induction l generalizing l' with
  | nil =>
    cases l' with
    | nil => exact ⟨rfl, (List.cons.inj h).2⟩
    | cons c l' =>
      rw [List.flatMap_cons, List.append_assoc] at h
      exact absurd h.symm (encodeChar_ne_quote c _ _)
  | cons c l ih =>
    rw [List.flatMap_cons, List.append_assoc] at h
    cases l' with
    | nil => exact absurd h (encodeChar_ne_quote c _ _)
    | cons c' l' =>
      rw [List.flatMap_cons, List.append_assoc] at h
      have hread := congrArg decodeChar h
      rw [decodeChar_encodeChar, decodeChar_encodeChar] at hread
      obtain ⟨rfl, hrest⟩ := Prod.mk.inj (Option.some.inj hread)
      obtain ⟨rfl, hr⟩ := ih hrest
      exact ⟨rfl, hr⟩

theorem encodeString_inj {s t : String} {r r' : List Char}
    (h : encodeString s ++ r = encodeString t ++ r') : s = t ∧ r = r' := by
  unfold encodeString at h
  simp only [List.cons_append, List.append_assoc, List.cons.injEq, true_and, List.nil_append] at h
  obtain ⟨hlist, hr⟩ := encodeChars_inj h
  exact ⟨String.toList_injective hlist, hr⟩

/-! ## Texts -/

def commaSeparated : List (List Char) → List Char
  | [] => []
  | [x] => x
  | x :: y :: rest => x ++ ',' :: commaSeparated (y :: rest)

def encodeField (field : String × List Char) : List Char := encodeString field.1 ++ ':' :: field.2

/-- The fields in the order of their keys. -/
def sortByKey {α : Type} (fields : List (String × α)) : List (String × α) :=
  fields.insertionSort fun a b => a.1 ≤ b.1

mutual

/-- The text with the keys of every object in order. -/
def canonical : Json → List Char
  | .null => "null".toList
  | .bool b => if b then "true".toList else "false".toList
  | .num n => n.text
  | .str s => encodeString s
  | .arr items => '[' :: (commaSeparated (canonicalItems items) ++ [']'])
  | .obj fields =>
    '{' :: (commaSeparated ((sortByKey (canonicalFields fields)).map encodeField) ++ ['}'])

def canonicalItems : List Json → List (List Char)
  | [] => []
  | v :: items => canonical v :: canonicalItems items

def canonicalFields : List (String × Json) → List (String × List Char)
  | [] => []
  | (key, v) :: fields => (key, canonical v) :: canonicalFields fields

end

mutual

/-- The text with the keys of every object as they stand. -/
def encode : Json → List Char
  | .null => "null".toList
  | .bool b => if b then "true".toList else "false".toList
  | .num n => n.text
  | .str s => encodeString s
  | .arr items => '[' :: (commaSeparated (encodeItems items) ++ [']'])
  | .obj fields => '{' :: (commaSeparated ((encodeFields fields).map encodeField) ++ ['}'])

def encodeItems : List Json → List (List Char)
  | [] => []
  | v :: items => encode v :: encodeItems items

def encodeFields : List (String × Json) → List (String × List Char)
  | [] => []
  | (key, v) :: fields => (key, encode v) :: encodeFields fields

end

mutual

/-- The value with the keys of every object in order. -/
def norm : Json → Json
  | .null => .null
  | .bool b => .bool b
  | .num n => .num n
  | .str s => .str s
  | .arr items => .arr (normItems items)
  | .obj fields => .obj (sortByKey (normFields fields))

def normItems : List Json → List Json
  | [] => []
  | v :: items => norm v :: normItems items

def normFields : List (String × Json) → List (String × Json)
  | [] => []
  | (key, v) :: fields => (key, norm v) :: normFields fields

end

/-! ## The canonical text is the text of the normal form -/

theorem orderedInsert_map {α β : Type} (f : α → β) (a : String × α) (l : List (String × α)) :
    (l.orderedInsert (fun a b => a.1 ≤ b.1) a).map (Prod.map id f) =
      (l.map (Prod.map id f)).orderedInsert (fun a b => a.1 ≤ b.1) (Prod.map id f a) := by
  induction l with
  | nil => rfl
  | cons b l ih =>
    rw [List.orderedInsert_cons, List.map_cons, List.orderedInsert_cons]
    show _ = if a.1 ≤ b.1 then _ else _
    split_ifs
    · rfl
    · rw [List.map_cons, ih]

/-- Sorting does not look at the values. -/
theorem sortByKey_map {α β : Type} (f : α → β) (l : List (String × α)) :
    sortByKey (l.map (Prod.map id f)) = (sortByKey l).map (Prod.map id f) := by
  unfold sortByKey
  induction l with
  | nil => rfl
  | cons a l ih => rw [List.map_cons, List.insertionSort_cons, List.insertionSort_cons, ih,
      orderedInsert_map]

theorem encodeFields_eq (l : List (String × Json)) :
    encodeFields l = l.map (Prod.map id encode) := by
  induction l with
  | nil => rw [encodeFields, List.map_nil]
  | cons a l ih =>
    obtain ⟨key, v⟩ := a
    rw [encodeFields, ih, List.map_cons]
    rfl

mutual

theorem canonical_eq (v : Json) : canonical v = encode (norm v) := by
  cases v with
  | null => simp only [canonical, norm, encode]
  | bool b => simp only [canonical, norm, encode]
  | num n => simp only [canonical, norm, encode]
  | str s => simp only [canonical, norm, encode]
  | arr items => simp only [canonical, norm, encode, canonicalItems_eq items]
  | obj fields =>
    simp only [canonical, norm, encode, canonicalFields_eq fields]
    rw [encodeFields_eq, encodeFields_eq, sortByKey_map]

theorem canonicalItems_eq (l : List Json) : canonicalItems l = encodeItems (normItems l) := by
  cases l with
  | nil => simp only [canonicalItems, normItems, encodeItems]
  | cons v l =>
    simp only [canonicalItems, normItems, encodeItems, canonical_eq v, canonicalItems_eq l]

theorem canonicalFields_eq (l : List (String × Json)) :
    canonicalFields l = encodeFields (normFields l) := by
  cases l with
  | nil => simp only [canonicalFields, normFields, encodeFields]
  | cons a l =>
    obtain ⟨key, v⟩ := a
    simp only [canonicalFields, normFields, encodeFields, canonical_eq v, canonicalFields_eq l]

end

/-! ## The text determines the value -/

/-- What may follow a value. -/
def Stops (r : List Char) : Prop := ∀ c ∈ r.head?, isNumberChar c = false

/-- The kinds of values, told apart by the first character of their text. -/
inductive Kind
  | null | bool (b : Bool) | num | str | arr | obj

def kind : Json → Kind
  | .null => .null
  | .bool b => .bool b
  | .num _ => .num
  | .str _ => .str
  | .arr _ => .arr
  | .obj _ => .obj

/-- The kind of the value that starts with this character, if one does. -/
def kindOfChar (c : Char) : Option Kind :=
  if c = 'n' then some .null
  else if c = 't' then some (.bool true)
  else if c = 'f' then some (.bool false)
  else if c = '"' then some .str
  else if c = '[' then some .arr
  else if c = '{' then some .obj
  else if isNumberChar c then some .num
  else none

theorem kindOfChar_of_isNumberChar {c : Char} (hc : isNumberChar c = true) :
    kindOfChar c = some .num := by
  unfold kindOfChar
  rw [if_neg, if_neg, if_neg, if_neg, if_neg, if_neg, if_pos hc] <;> rintro rfl <;>
    exact absurd hc (by decide)

theorem kindOfChar_head (v : Json) (r : List Char) :
    (encode v ++ r).head?.bind kindOfChar = some v.kind := by
  cases v with
  | null => rw [encode]; rfl
  | bool b => cases b <;> rw [encode] <;> rfl
  | num n =>
    rw [encode]
    obtain ⟨c, text, htext⟩ := List.exists_cons_of_ne_nil n.nonempty
    have hc := List.all_eq_true.mp n.chars c (by rw [htext]; exact List.mem_cons_self)
    rw [htext]
    exact kindOfChar_of_isNumberChar hc
  | str s => rw [encode]; rfl
  | arr items => rw [encode]; rfl
  | obj fields => rw [encode]; rfl

/-- No value starts with a character of no kind. -/
theorem encode_ne_cons {v : Json} {c : Char} {r r' : List Char} (hc : kindOfChar c = none) :
    encode v ++ r ≠ c :: r' := by
  intro h
  have hhead := kindOfChar_head v r
  rw [h] at hhead
  exact absurd (hc.symm.trans hhead) (by simp)

theorem takeWhile_number {a r : List Char} (ha : a.all isNumberChar = true) (hr : Stops r) :
    (a ++ r).takeWhile isNumberChar = a := by
  rw [List.takeWhile_append_of_pos (List.all_eq_true.mp ha)]
  cases r with
  | nil => simp
  | cons c r => rw [List.takeWhile_cons_of_neg (by simp [hr c rfl]), List.append_nil]

theorem number_inj {a b r r' : List Char} (ha : a.all isNumberChar = true)
    (hb : b.all isNumberChar = true) (hr : Stops r) (hr' : Stops r') (h : a ++ r = b ++ r') :
    a = b ∧ r = r' := by
  have hab : a = b := by rw [← takeWhile_number ha hr, h, takeWhile_number hb hr']
  subst hab
  exact ⟨rfl, List.append_cancel_left h⟩

/-- What follows the first item of a list that `r` ends. -/
def afterFirst (xs : List (List Char)) (r : List Char) : List Char :=
  if xs = [] then r else ',' :: (commaSeparated xs ++ r)

theorem commaSeparated_cons (x : List Char) (xs : List (List Char)) (r : List Char) :
    commaSeparated (x :: xs) ++ r = x ++ afterFirst xs r := by
  cases xs with
  | nil => rfl
  | cons y xs =>
    rw [commaSeparated, afterFirst, if_neg (List.cons_ne_nil y xs), List.append_assoc,
      List.cons_append]

/-- A comma tells that the list goes on, if no list ends with one. -/
theorem afterFirst_inj {xs ys : List (List Char)} {c : Char} {r r' : List Char} (hc : c ≠ ',')
    (h : afterFirst xs (c :: r) = afterFirst ys (c :: r')) :
    commaSeparated xs ++ c :: r = commaSeparated ys ++ c :: r' := by
  unfold afterFirst at h
  split_ifs at h with hxs hys hys
  · rw [hxs, hys]
    exact h
  · exact absurd (List.cons.inj h).1 hc
  · exact absurd (List.cons.inj h).1.symm hc
  · exact (List.cons.inj h).2

theorem stops_cons {c : Char} {r : List Char} (hc : isNumberChar c = false) : Stops (c :: r) := by
  intro c' hc'
  obtain rfl := Option.some.inj hc'
  exact hc

theorem stops_afterFirst {xs : List (List Char)} {c : Char} {r : List Char}
    (hc : isNumberChar c = false) : Stops (afterFirst xs (c :: r)) := by
  unfold afterFirst
  split_ifs
  · exact stops_cons hc
  · exact stops_cons (by decide)

mutual

/-- A value's text ends before `r` if no number goes on into it. -/
theorem encode_inj (v w : Json) {r r' : List Char} (hr : Stops r) (hr' : Stops r')
    (h : encode v ++ r = encode w ++ r') : v = w ∧ r = r' := by
  have hkind : v.kind = w.kind := by
    rw [← Option.some.injEq, ← kindOfChar_head v r, h, kindOfChar_head]
  cases v with
  | null =>
    cases w with
    | null => exact ⟨rfl, List.append_cancel_left h⟩
    | _ => cases hkind
  | bool b =>
    cases w with
    | bool b' =>
      obtain rfl := Kind.bool.inj hkind
      exact ⟨rfl, List.append_cancel_left h⟩
    | _ => cases hkind
  | num n =>
    cases w with
    | num m =>
      rw [encode, encode] at h
      obtain ⟨htext, hrest⟩ := number_inj n.chars m.chars hr hr' h
      refine ⟨congrArg Json.num ?_, hrest⟩
      cases n
      cases m
      simp_all
    | _ => cases hkind
  | str s =>
    cases w with
    | str t =>
      rw [encode, encode] at h
      obtain ⟨rfl, hrest⟩ := encodeString_inj h
      exact ⟨rfl, hrest⟩
    | _ => cases hkind
  | arr items =>
    cases w with
    | arr items' =>
      rw [encode, encode, List.cons_append, List.cons_append, List.append_assoc,
        List.append_assoc] at h
      obtain ⟨hitems, hrest⟩ := encodeItems_inj items items' (List.cons.inj h).2
      exact ⟨congrArg Json.arr hitems, hrest⟩
    | _ => cases hkind
  | obj fields =>
    cases w with
    | obj fields' =>
      rw [encode, encode, List.cons_append, List.cons_append, List.append_assoc,
        List.append_assoc] at h
      obtain ⟨hfields, hrest⟩ := encodeFields_inj fields fields' (List.cons.inj h).2
      exact ⟨congrArg Json.obj hfields, hrest⟩
    | _ => cases hkind

theorem encodeItems_inj (l l' : List Json) {r r' : List Char}
    (h : commaSeparated (encodeItems l) ++ ']' :: r =
      commaSeparated (encodeItems l') ++ ']' :: r') : l = l' ∧ r = r' := by
  cases l with
  | nil =>
    cases l' with
    | nil => exact ⟨rfl, (List.cons.inj h).2⟩
    | cons w l' =>
      rw [encodeItems, encodeItems, commaSeparated_cons] at h
      exact absurd h.symm (encode_ne_cons (by decide))
  | cons v l =>
    cases l' with
    | nil =>
      rw [encodeItems, encodeItems, commaSeparated_cons] at h
      exact absurd h (encode_ne_cons (by decide))
    | cons w l' =>
      rw [encodeItems, encodeItems, commaSeparated_cons, commaSeparated_cons] at h
      obtain ⟨rfl, hafter⟩ :=
        encode_inj v w (stops_afterFirst (by decide)) (stops_afterFirst (by decide)) h
      obtain ⟨rfl, hr⟩ := encodeItems_inj l l' (afterFirst_inj (by decide) hafter)
      exact ⟨rfl, hr⟩

theorem encodeFields_inj (l l' : List (String × Json)) {r r' : List Char}
    (h : commaSeparated ((encodeFields l).map encodeField) ++ '}' :: r =
      commaSeparated ((encodeFields l').map encodeField) ++ '}' :: r') : l = l' ∧ r = r' := by
  cases l with
  | nil =>
    cases l' with
    | nil => exact ⟨rfl, (List.cons.inj h).2⟩
    | cons b l' =>
      obtain ⟨key, w⟩ := b
      rw [encodeFields, encodeFields, List.map_cons, commaSeparated_cons] at h
      exact absurd (List.cons.inj h).1 (by decide)
  | cons a l =>
    obtain ⟨key, v⟩ := a
    cases l' with
    | nil =>
      rw [encodeFields, encodeFields, List.map_cons, commaSeparated_cons] at h
      exact absurd (List.cons.inj h).1 (by decide)
    | cons b l' =>
      obtain ⟨key', w⟩ := b
      rw [encodeFields, encodeFields, List.map_cons, List.map_cons, commaSeparated_cons,
        commaSeparated_cons, encodeField, encodeField, List.append_assoc, List.append_assoc] at h
      obtain ⟨rfl, hvalue⟩ := encodeString_inj h
      obtain ⟨rfl, hafter⟩ := encode_inj v w (stops_afterFirst (by decide))
        (stops_afterFirst (by decide)) (List.cons.inj hvalue).2
      obtain ⟨rfl, hr⟩ := encodeFields_inj l l' (afterFirst_inj (by decide) hafter)
      exact ⟨rfl, hr⟩

end

/-- The text of a value determines the value. -/
theorem encode_injective : Function.Injective encode := by
  intro v w h
  have hstops : Stops [] := nofun
  exact (encode_inj v w hstops hstops (congrArg (· ++ []) h)).1

/-- The canonical text determines the value up to the order of the keys. -/
theorem canonical_eq_iff (v w : Json) : canonical v = canonical w ↔ norm v = norm w := by
  rw [canonical_eq, canonical_eq]
  exact encode_injective.eq_iff

/-! ## Maps ordered by their keys -/

section Maps

variable {α : Type} {k key : String} {v : α} {l m : List (String × α)}

def lookupKey (key : String) (m : List (String × α)) : Option α :=
  (m.find? fun f => f.1 = key).map Prod.snd

@[simp] theorem lookupKey_nil : lookupKey k ([] : List (String × α)) = none := rfl

@[simp] theorem lookupKey_cons {f : String × α} :
    lookupKey k (f :: m) = if f.1 = k then some f.2 else lookupKey k m := by
  unfold lookupKey
  rw [List.find?_cons]
  split_ifs with h <;> simp [h]

theorem mem_of_lookupKey (h : lookupKey k m = some v) : (k, v) ∈ m := by
  obtain ⟨⟨k', v'⟩, hfind, rfl⟩ := Option.map_eq_some_iff.mp h
  obtain rfl : k' = k := by simpa using List.find?_some hfind
  exact List.mem_of_find?_eq_some hfind

/-- The keys are those that have a value. -/
theorem mem_keys_iff : k ∈ m.map Prod.fst ↔ (lookupKey k m).isSome = true := by
  induction m with
  | nil => simp
  | cons f m ih =>
    rw [List.map_cons, List.mem_cons, lookupKey_cons, ih, eq_comm]
    split_ifs with h <;> simp [h]

/-- The first value of a key stays the first when the keys are sorted. -/
theorem lookupKey_sortByKey : lookupKey k (sortByKey l) = lookupKey k l := by
  have hinsert (f : String × α) (m : List (String × α)) :
      lookupKey k (m.orderedInsert (fun a b => a.1 ≤ b.1) f) = lookupKey k (f :: m) := by
    induction m with
    | nil => rfl
    | cons g m ih =>
      rw [List.orderedInsert_cons]
      split_ifs with hle
      · rfl
      · rw [lookupKey_cons, ih, lookupKey_cons, lookupKey_cons, lookupKey_cons]
        split_ifs with hg hf <;> first | rfl | exact absurd (le_of_eq (hf.trans hg.symm)) hle
  unfold sortByKey
  induction l with
  | nil => rfl
  | cons f l ih => rw [List.insertionSort_cons, hinsert, lookupKey_cons, lookupKey_cons, ih]

theorem lookupKey_map {β : Type} (f : α → β) :
    lookupKey k (l.map (Prod.map id f)) = (lookupKey k l).map f := by
  induction l with
  | nil => rfl
  | cons a l ih =>
    rw [List.map_cons, lookupKey_cons, lookupKey_cons, ih]
    show (if a.1 = k then some (f a.2) else _) = _
    split_ifs <;> rfl

/-- Under different keys every field is found. -/
theorem mem_iff_lookupKey (hkeys : (l.map Prod.fst).Nodup) :
    (k, v) ∈ l ↔ lookupKey k l = some v := by
  refine ⟨fun h => ?_, mem_of_lookupKey⟩
  induction l with
  | nil => cases h
  | cons f l ih =>
    rw [List.map_cons, List.nodup_cons] at hkeys
    rw [lookupKey_cons]
    rcases List.mem_cons.mp h with rfl | h
    · rw [if_pos rfl]
    · have hne : f.1 ≠ k := fun heq => hkeys.1 (heq ▸ List.mem_map_of_mem (f := Prod.fst) h)
      rw [if_neg hne, ih hkeys.2 h]

/-- Different keys, sorted, are in strict order. -/
theorem pairwise_sortByKey (hkeys : (l.map Prod.fst).Nodup) :
    (sortByKey l).Pairwise fun a b => a.1 < b.1 := by
  have hle : (sortByKey l).Pairwise fun a b => a.1 ≤ b.1 :=
    haveI : Std.Total fun a b : String × α => a.1 ≤ b.1 := ⟨fun a b => le_total a.1 b.1⟩
    haveI : IsTrans (String × α) fun a b => a.1 ≤ b.1 := ⟨fun _ _ _ => le_trans⟩
    List.pairwise_insertionSort _ l
  have hne : (sortByKey l).Pairwise fun a b => a.1 ≠ b.1 := by
    have hnodup : ((sortByKey l).map Prod.fst).Nodup :=
      (((List.perm_insertionSort _ l).map Prod.fst).nodup_iff).mpr hkeys
    exact List.pairwise_map.mp hnodup
  exact (hle.and hne).imp fun h => lt_of_le_of_ne h.1 h.2

/-- Sorted maps are determined by their lookups. -/
theorem sortByKey_eq_of_lookupKey (hl : (l.map Prod.fst).Nodup) (hm : (m.map Prod.fst).Nodup)
    (h : ∀ k, lookupKey k l = lookupKey k m) : sortByKey l = sortByKey m := by
  have hperm : l.Perm m := by
    refine (List.perm_ext_iff_of_nodup hl.of_map hm.of_map).mpr fun f => ?_
    rw [mem_iff_lookupKey hl, mem_iff_lookupKey hm, h]
  have hsorted : (sortByKey l).Perm (sortByKey m) :=
    (List.perm_insertionSort _ l).trans (hperm.trans (List.perm_insertionSort _ m).symm)
  exact hsorted.eq_of_pairwise (fun _ _ _ _ hab hba => absurd hab hba.asymm)
    (pairwise_sortByKey hl) (pairwise_sortByKey hm)

end Maps

/-! ## Objects -/

/-- The value of a key of an object. -/
def get? : Json → String → Option Json
  | .obj fields, key => lookupKey key fields
  | _, _ => none

theorem normFields_eq (l : List (String × Json)) :
    normFields l = l.map (Prod.map id norm) := by
  induction l with
  | nil => rw [normFields, List.map_nil]
  | cons a l ih =>
    obtain ⟨key, v⟩ := a
    rw [normFields, ih, List.map_cons]
    rfl

/-- The fields of the normal form are the normal forms of the fields. -/
theorem get?_norm (v : Json) (k : String) : (norm v).get? k = (v.get? k).map norm := by
  cases v with
  | obj fields => rw [norm, get?, get?, lookupKey_sortByKey, normFields_eq, lookupKey_map]
  | _ => rw [norm]; rfl

/-! ## Values up to the order of the keys -/

/-- The keys of every object differ, as they do in a map. -/
inductive DistinctKeys : Json → Prop
  | null : DistinctKeys .null
  | bool (b : Bool) : DistinctKeys (.bool b)
  | num (n : JsonNumber) : DistinctKeys (.num n)
  | str (s : String) : DistinctKeys (.str s)
  | arr {items : List Json} (hitems : ∀ v ∈ items, DistinctKeys v) : DistinctKeys (.arr items)
  | obj {fields : List (String × Json)} (hkeys : (fields.map Prod.fst).Nodup)
      (hvalues : ∀ f ∈ fields, DistinctKeys f.2) : DistinctKeys (.obj fields)

/-- Equal values, whatever the order of the keys: arrays have the same items in order, objects
    have the same keys and the same value under each. -/
inductive Same : Json → Json → Prop
  | null : Same .null .null
  | bool (b : Bool) : Same (.bool b) (.bool b)
  | num (n : JsonNumber) : Same (.num n) (.num n)
  | str (s : String) : Same (.str s) (.str s)
  | arr {l m : List Json} (hlength : l.length = m.length)
      (hitems : ∀ (i : ℕ) (v w : Json), l[i]? = some v → m[i]? = some w → Same v w) :
      Same (.arr l) (.arr m)
  | obj {l m : List (String × Json)} (hkeys : ∀ k, k ∈ l.map Prod.fst ↔ k ∈ m.map Prod.fst)
      (hvalues : ∀ (k : String) (v w : Json), lookupKey k l = some v → lookupKey k m = some w →
        Same v w) :
      Same (.obj l) (.obj m)

theorem normItems_eq (l : List Json) : normItems l = l.map norm := by
  induction l with
  | nil => rw [normItems, List.map_nil]
  | cons v l ih => rw [normItems, ih, List.map_cons]

theorem DistinctKeys.items {l : List Json} (h : DistinctKeys (.arr l)) :
    ∀ v ∈ l, v.DistinctKeys := by
  cases h with
  | arr hitems => exact hitems

theorem DistinctKeys.fields {l : List (String × Json)} (h : DistinctKeys (.obj l)) :
    (l.map Prod.fst).Nodup ∧ ∀ f ∈ l, f.2.DistinctKeys := by
  cases h with
  | obj hkeys hvalues => exact ⟨hkeys, hvalues⟩

/-- The order of the keys is lost in the normal form. -/
theorem Same.norm_eq {v w : Json} (h : Same v w) (hv : v.DistinctKeys) (hw : w.DistinctKeys) :
    norm v = norm w := by
  induction h with
  | null => rfl
  | bool b => rfl
  | num n => rfl
  | str s => rfl
  | @arr l m hlength _ ih =>
    rw [norm, norm, normItems_eq, normItems_eq]
    refine congrArg Json.arr (List.ext_getElem? fun i => ?_)
    rw [List.getElem?_map, List.getElem?_map]
    by_cases hi : i < l.length
    · have hl : l[i]? = some l[i] := List.getElem?_eq_getElem hi
      have hm : m[i]? = some (m[i]) := List.getElem?_eq_getElem (hlength ▸ hi)
      rw [hl, hm, Option.map_some, Option.map_some,
        ih i _ _ hl hm (hv.items _ (List.getElem_mem hi)) (hw.items _ (List.getElem_mem _))]
    · rw [List.getElem?_eq_none (by omega), List.getElem?_eq_none (by omega)]
  | @obj l m hkeys _ ih =>
    obtain ⟨hl, hlvalues⟩ := hv.fields
    obtain ⟨hm, hmvalues⟩ := hw.fields
    have hfst (l : List (String × Json)) :
        (l.map (Prod.map id norm)).map Prod.fst = l.map Prod.fst := by
      rw [List.map_map]
      rfl
    rw [norm, norm, normFields_eq, normFields_eq]
    refine congrArg Json.obj (sortByKey_eq_of_lookupKey (by rwa [hfst]) (by rwa [hfst]) fun k => ?_)
    rw [lookupKey_map, lookupKey_map]
    have hsome := hkeys k
    rw [mem_keys_iff, mem_keys_iff] at hsome
    cases hlk : lookupKey k l with
    | none =>
      cases hmk : lookupKey k m with
      | none => rfl
      | some w => simp [hlk, hmk] at hsome
    | some v =>
      cases hmk : lookupKey k m with
      | none => simp [hlk, hmk] at hsome
      | some w =>
        rw [Option.map_some, Option.map_some, ih k v w hlk hmk
          (hlvalues _ (mem_of_lookupKey hlk)) (hmvalues _ (mem_of_lookupKey hmk))]

/-- Nothing else is lost. -/
theorem same_of_norm_eq {v w : Json} (hv : v.DistinctKeys) (h : norm v = norm w) : Same v w := by
  induction hv generalizing w with
  | null =>
    cases w with
    | null => exact .null
    | _ => simp only [norm, reduceCtorEq] at h
  | bool b =>
    cases w with
    | bool b' =>
      simp only [norm, Json.bool.injEq] at h
      exact h ▸ .bool b
    | _ => simp only [norm, reduceCtorEq] at h
  | num n =>
    cases w with
    | num n' =>
      simp only [norm, Json.num.injEq] at h
      exact h ▸ .num n
    | _ => simp only [norm, reduceCtorEq] at h
  | str s =>
    cases w with
    | str s' =>
      simp only [norm, Json.str.injEq] at h
      exact h ▸ .str s
    | _ => simp only [norm, reduceCtorEq] at h
  | @arr l _ ih =>
    cases w with
    | arr m =>
      simp only [norm, Json.arr.injEq, normItems_eq] at h
      refine .arr (by simpa using congrArg List.length h) fun i v w hv hw => ?_
      have hi := congrArg (·[i]?) h
      simp only [List.getElem?_map, hv, hw, Option.map_some, Option.some.injEq] at hi
      exact ih v (List.mem_of_getElem? hv) hi
    | _ => simp only [norm, reduceCtorEq] at h
  | @obj l _ _ ih =>
    cases w with
    | obj m =>
      have hlookup (k : String) : (lookupKey k l).map norm = (lookupKey k m).map norm := by
        have hget := congrArg (·.get? k) h
        simp only [get?_norm] at hget
        exact hget
      refine .obj (fun k => ?_) fun k v w hv hw => ?_
      · rw [mem_keys_iff, mem_keys_iff, ← Option.isSome_map (f := norm), hlookup,
          Option.isSome_map]
      · have hk := hlookup k
        rw [hv, hw] at hk
        exact ih (k, v) (mem_of_lookupKey hv) (Option.some.inj hk)
    | _ => simp only [norm, reduceCtorEq] at h

/-- The canonical text is the same exactly if the values are, whatever the order of the keys. -/
theorem canonical_eq_iff_same {v w : Json} (hv : v.DistinctKeys) (hw : w.DistinctKeys) :
    canonical v = canonical w ↔ Same v w := by
  rw [canonical_eq_iff]
  exact ⟨same_of_norm_eq hv, fun h => h.norm_eq hv hw⟩

end Json
