import Mathlib.Data.List.Basic

/-!
# JSON texts

A reader of JSON texts, and what it reads off texts that are put together from smaller ones. The reader knows the whole
grammar (white space, escapes, numbers with a fraction and an exponent, arrays, objects) and is fuelled by the length of the
text. `Json.Reads v text` says that a value is read off a text whatever follows; there is a rule for strings of plain
characters, natural numbers, arrays and objects.
-/

/-- A JSON value; a number is `mantissa * 10 ^ exponent`. -/
inductive Json where
  | null
  | bool (b : Bool)
  | num (mantissa exponent : Int)
  | str (s : String)
  | arr (xs : List Json)
  | obj (fields : List (String × Json))

namespace Json

/-! ## Reading -/

def isSpace (c : Char) : Bool := c = ' ' || c = '\t' || c = '\n' || c = '\r'

def skipSpace (cs : List Char) : List Char := cs.dropWhile isSpace

/-- What is left after a word, if the text begins with it. -/
def word (w : List Char) (cs : List Char) : Option (List Char) := if w <+: cs then some (cs.drop w.length) else none

def hexDigit (c : Char) : Option Nat :=
  if c.isDigit then some (c.toNat - '0'.toNat)
  else if 'a' ≤ c ∧ c ≤ 'f' then some (c.toNat - 'a'.toNat + 10)
  else if 'A' ≤ c ∧ c ≤ 'F' then some (c.toNat - 'A'.toNat + 10)
  else none

/-- Four hexadecimal digits. -/
def hex4 : List Char → Option (Nat × List Char)
  | a :: b :: c :: d :: cs => do
    let a ← hexDigit a
    let b ← hexDigit b
    let c ← hexDigit c
    let d ← hexDigit d
    return (((a * 16 + b) * 16 + c) * 16 + d, cs)
  | _ => none

/-- The character that a backslash and this one stand for. -/
def escaped (c : Char) : Option Char :=
  if c = '"' ∨ c = '\\' ∨ c = '/' then some c
  else if c = 'b' then some (Char.ofNat 0x08)
  else if c = 'f' then some (Char.ofNat 0x0c)
  else if c = 'n' then some '\n'
  else if c = 'r' then some '\r'
  else if c = 't' then some '\t'
  else none

/-- The character of an escape by number, after the `u`: one code unit, or a pair of surrogates. -/
def codeUnits (cs : List Char) : Option (Char × List Char) := do
  let (high, cs) ← hex4 cs
  if 0xd800 ≤ high ∧ high < 0xdc00 then
    let cs ← word ['\\', 'u'] cs
    let (low, cs) ← hex4 cs
    if 0xdc00 ≤ low ∧ low < 0xe000 then
      return (Char.ofNat (0x10000 + (high - 0xd800) * 0x400 + (low - 0xdc00)), cs)
    else none
  else if 0xdc00 ≤ high ∧ high < 0xe000 then none
  else return (Char.ofNat high, cs)

/-- A character that stands for itself in a string: no control character, no quote and no backslash. -/
def isPlain (c : Char) : Bool := 0x20 ≤ c.toNat && c ≠ '"' && c ≠ '\\'

/-- One character of a string, plain or escaped. -/
def character : List Char → Option (Char × List Char)
  | [] => none
  | c :: cs =>
    if isPlain c then some (c, cs)
    else if c = '\\' then
      match cs with
      | [] => none
      | c :: cs => if c = 'u' then codeUnits cs else (escaped c).map fun c => (c, cs)
    else none

/-- The characters of a string, after its opening quote and up to the closing one. -/
def characters : Nat → List Char → Option (List Char × List Char)
  | 0, _ => none
  | fuel + 1, cs =>
    if cs.head? = some '"' then some ([], cs.tail)
    else do
      let (c, cs) ← character cs
      let (s, cs) ← characters fuel cs
      return (c :: s, cs)

/-- A string, after its opening quote. -/
def string (cs : List Char) : Option (String × List Char) :=
  (characters (cs.length + 1) cs).map fun (s, cs) => (String.ofList s, cs)

/-- The number that digits write. -/
def natOfDigits (ds : List Char) : Nat := ds.foldl (fun n d => 10 * n + (d.toNat - '0'.toNat)) 0

/-- The digits of a fraction, if there is one. -/
def fraction : List Char → Option (List Char × List Char)
  | [] => some ([], [])
  | c :: cs =>
    if c = '.' then
      if (cs.takeWhile Char.isDigit) = [] then none else some (cs.takeWhile Char.isDigit, cs.dropWhile Char.isDigit)
    else some ([], c :: cs)

/-- The exponent, if there is one. -/
def exponent : List Char → Option (Int × List Char)
  | [] => some (0, [])
  | c :: cs =>
    if c = 'e' ∨ c = 'E' then
      let negative := cs.head? = some '-'
      let cs := if negative ∨ cs.head? = some '+' then cs.tail else cs
      let ds := cs.takeWhile Char.isDigit
      if ds = [] then none
      else some (if negative then -(natOfDigits ds : Int) else natOfDigits ds, cs.dropWhile Char.isDigit)
    else some (0, c :: cs)

/-- A number. -/
def number (cs : List Char) : Option (Json × List Char) := do
  let negative := cs.head? = some '-'
  let cs := if negative then cs.tail else cs
  let int := cs.takeWhile Char.isDigit
  if int = [] ∨ (int.head? = some '0' ∧ int ≠ ['0']) then none
  else
    let (frac, cs) ← fraction (cs.dropWhile Char.isDigit)
    let (exp, cs) ← exponent cs
    let mantissa : Int := natOfDigits (int ++ frac)
    return (.num (if negative then -mantissa else mantissa) (exp - frac.length), cs)

mutual

/-- A value, and what is left after it. -/
def value : Nat → List Char → Option (Json × List Char)
  | 0, _ => none
  | fuel + 1, cs =>
    match skipSpace cs with
    | [] => none
    | c :: cs =>
      if c = '"' then (string cs).map fun (s, cs) => (.str s, cs)
      else if c = '[' then
        if (skipSpace cs).head? = some ']' then some (.arr [], (skipSpace cs).tail)
        else (elements fuel cs).map fun (xs, cs) => (.arr xs, cs)
      else if c = '\x7b' then
        if (skipSpace cs).head? = some '\x7d' then some (.obj [], (skipSpace cs).tail)
        else (members fuel cs).map fun (fields, cs) => (.obj fields, cs)
      else if c = 'n' then (word ['u', 'l', 'l'] cs).map fun cs => (.null, cs)
      else if c = 't' then (word ['r', 'u', 'e'] cs).map fun cs => (.bool true, cs)
      else if c = 'f' then (word ['a', 'l', 's', 'e'] cs).map fun cs => (.bool false, cs)
      else number (c :: cs)

/-- The elements of an array that has some, up to the closing bracket. -/
def elements : Nat → List Char → Option (List Json × List Char)
  | 0, _ => none
  | fuel + 1, cs => do
    let (x, cs) ← value fuel cs
    match skipSpace cs with
    | [] => none
    | c :: cs =>
      if c = ']' then return ([x], cs)
      else if c = ',' then
        let (xs, cs) ← elements fuel cs
        return (x :: xs, cs)
      else none

/-- The members of an object that has some, up to the closing brace. -/
def members : Nat → List Char → Option (List (String × Json) × List Char)
  | 0, _ => none
  | fuel + 1, cs => do
    let cs ← word ['"'] (skipSpace cs)
    let (key, cs) ← string cs
    let cs ← word [':'] (skipSpace cs)
    let (x, cs) ← value fuel cs
    match skipSpace cs with
    | [] => none
    | c :: cs =>
      if c = '\x7d' then return ([(key, x)], cs)
      else if c = ',' then
        let (fields, cs) ← members fuel cs
        return ((key, x) :: fields, cs)
      else none

end

/-- The value of a text, if it is well-formed JSON. -/
def parse (text : String) : Option Json := do
  let (x, rest) ← value (text.toList.length + 1) text.toList
  if skipSpace rest = [] then return x else none

/-! ## What is read off a text -/

/-- What may follow a number: nothing that would be read as a part of it. -/
def Ends (rest : List Char) : Prop := ∀ c ∈ rest.head?, c.isDigit = false ∧ c ≠ '.' ∧ c ≠ 'e' ∧ c ≠ 'E'

/-- A value is read off a text, whatever follows. -/
def Reads (v : Json) (cs : List Char) : Prop :=
  ∀ fuel rest, cs.length < fuel → Ends rest → value fuel (cs ++ rest) = some (v, rest)

theorem ends_nil : Ends [] := by
  simp [Ends]

theorem ends_cons {c : Char} {rest : List Char} (h : c.isDigit = false ∧ c ≠ '.' ∧ c ≠ 'e' ∧ c ≠ 'E') :
    Ends (c :: rest) := by
  intro c' hc'
  simp only [List.head?_cons, Option.mem_def, Option.some.injEq] at hc'
  exact hc' ▸ h

/-- The value of a text that is read off it. -/
theorem parse_of_reads {v : Json} {text : String} (h : Reads v text.toList) : parse text = some v := by
  have hvalue := h (text.toList.length + 1) [] (by omega) ends_nil
  rw [List.append_nil] at hvalue
  unfold parse
  rw [hvalue]
  rfl

@[simp] theorem skipSpace_cons {c : Char} {cs : List Char} (h : isSpace c = false) : skipSpace (c :: cs) = c :: cs := by
  simp [skipSpace, h]

/-- White space before a value is skipped. -/
theorem value_space (fuel : Nat) (cs : List Char) : value fuel (' ' :: cs) = value fuel cs := by
  have hskip : skipSpace (' ' :: cs) = skipSpace cs := by
    simp [skipSpace, isSpace]
  cases fuel with
  | zero => simp [value]
  | succ fuel => simp only [value, hskip]

/-- No value begins with a closing bracket. -/
theorem value_bracket {fuel : Nat} {cs : List Char} (h : (skipSpace cs).head? = some ']') : value fuel cs = none := by
  cases fuel with
  | zero => simp [value]
  | succ fuel =>
    obtain ⟨rest, hrest⟩ := List.head?_eq_some_iff.mp h
    simp [value, hrest, number, Char.isDigit]

/-! ## Strings -/

/-- Plain characters are read as they are, up to the closing quote. -/
theorem characters_plain {s : List Char} (hs : ∀ c ∈ s, isPlain c) {fuel : Nat} (hfuel : s.length < fuel)
    (rest : List Char) : characters fuel (s ++ '"' :: rest) = some (s, rest) := by
  induction s generalizing fuel with
  | nil =>
    cases fuel with
    | zero => simp at hfuel
    | succ fuel => simp [characters]
  | cons c s ih =>
    cases fuel with
    | zero => simp at hfuel
    | succ fuel =>
      have hc : isPlain c := hs c (by simp)
      have hquote : c ≠ '"' := by
        rintro rfl
        simp [isPlain] at hc
      have hfuel' : s.length < fuel := by simpa using hfuel
      have hrest := ih (fun c' hc' => hs c' (List.mem_cons_of_mem _ hc')) hfuel'
      simp [characters, character, hquote, hc, hrest]

/-- A string of plain characters needs no escape. -/
def Plain (s : String) : Prop := ∀ c ∈ s.toList, isPlain c

/-- A string in quotes, without escapes. -/
def quoted (s : String) : List Char := '"' :: s.toList ++ ['"']

theorem string_plain {s : String} (hs : Plain s) (rest : List Char) :
    string (s.toList ++ '"' :: rest) = some (s, rest) := by
  have hfuel : s.toList.length < (s.toList ++ '"' :: rest).length + 1 := by
    rw [List.length_append]
    omega
  unfold string
  rw [characters_plain hs hfuel]
  simp

/-- A string of plain characters, in quotes. -/
theorem reads_str {s : String} (hs : Plain s) : Reads (.str s) (quoted s) := by
  intro fuel rest hfuel _
  cases fuel with
  | zero => simp [quoted] at hfuel
  | succ fuel => simp [quoted, value, isSpace, string_plain hs]

/-! ## Numbers -/

/-- Digits are read up to what ends them. -/
theorem takeWhile_digits {ds rest : List Char} (hdigits : ∀ d ∈ ds, d.isDigit) (hrest : Ends rest) :
    (ds ++ rest).takeWhile Char.isDigit = ds ∧ (ds ++ rest).dropWhile Char.isDigit = rest := by
  rw [List.takeWhile_append_of_pos hdigits, List.dropWhile_append_of_pos hdigits]
  cases rest with
  | nil => simp
  | cons c rest => simp [(hrest c (by simp)).1]

theorem fraction_ends {rest : List Char} (h : Ends rest) : fraction rest = some ([], rest) := by
  cases rest with
  | nil => rfl
  | cons c rest => simp [fraction, (h c (by simp)).2.1]

theorem exponent_ends {rest : List Char} (h : Ends rest) : exponent rest = some (0, rest) := by
  cases rest with
  | nil => rfl
  | cons c rest => simp [exponent, (h c (by simp)).2.2.1, (h c (by simp)).2.2.2]

/-- A natural number, in digits without a leading zero. -/
theorem reads_nat {d : Char} {ds : List Char} (hdigits : ∀ c ∈ d :: ds, c.isDigit) (hzero : d ≠ '0') :
    Reads (.num (natOfDigits (d :: ds)) 0) (d :: ds) := by
  intro fuel rest hfuel hrest
  obtain ⟨htake, hdrop⟩ := takeWhile_digits hdigits hrest
  have hd : d.isDigit := hdigits d (by simp)
  -- no other value begins with a digit
  have hother : ∀ c : Char, c.isDigit = false → d ≠ c := by
    rintro c hc rfl
    rw [hd] at hc
    cases hc
  have hspace : isSpace d = false := by
    simp [isSpace, hother ' ' rfl, hother '\t' rfl, hother '\n' rfl, hother '\r' rfl]
  have hnumber : number (d :: (ds ++ rest)) = some (.num (natOfDigits (d :: ds)) 0, rest) := by
    simp only [List.cons_append] at htake hdrop
    simp [number, hother '-' rfl, htake, hdrop, hzero, fraction_ends hrest, exponent_ends hrest]
  cases fuel with
  | zero => simp at hfuel
  | succ fuel =>
    simp only [List.cons_append, value, skipSpace_cons hspace, hother '"' rfl, hother '[' rfl, hother '\x7b' rfl,
      hother 'n' rfl, hother 't' rfl, hother 'f' rfl, if_false, hnumber]

/-! ## Arrays -/

/-- Texts, with a comma and a space between them. -/
def commaSep (texts : List (List Char)) : List Char := [',', ' '].intercalate texts

@[simp] theorem commaSep_nil : commaSep [] = [] := by
  simp [commaSep, List.intercalate]

@[simp] theorem commaSep_singleton (text : List Char) : commaSep [text] = text := by
  simp [commaSep]

@[simp] theorem commaSep_cons_cons (text text' : List Char) (texts : List (List Char)) :
    commaSep (text :: text' :: texts) = text ++ ',' :: ' ' :: commaSep (text' :: texts) := by
  simp [commaSep]

/-- Strings joined by a comma and a space. -/
theorem toList_commaSep (texts : List String) :
    (", ".intercalate texts).toList = commaSep (texts.map String.toList) := by
  rw [String.toList_intercalate]
  rfl

/-- A value read off a text does not begin with a closing bracket. -/
theorem Reads.head_ne {v : Json} {cs : List Char} (h : Reads v cs) {rest : List Char} (hrest : Ends rest) :
    (skipSpace (cs ++ rest)).head? ≠ some ']' := by
  intro hhead
  have hvalue := h (cs.length + 1) rest (by omega) hrest
  rw [value_bracket hhead] at hvalue
  cases hvalue

/-- White space before the elements is skipped. -/
theorem elements_space (fuel : Nat) (cs : List Char) : elements fuel (' ' :: cs) = elements fuel cs := by
  cases fuel with
  | zero => simp [elements]
  | succ fuel => simp only [elements, value_space]

/-- The last element of an array. -/
theorem elements_last {v : Json} {cs : List Char} (h : Reads v cs) {fuel : Nat} (hfuel : cs.length < fuel)
    (rest : List Char) : elements (fuel + 1) (cs ++ ']' :: rest) = some ([v], rest) := by
  simp [elements, h fuel (']' :: rest) hfuel (ends_cons (by decide)), isSpace]

/-- An element of an array that others follow. -/
theorem elements_more {v : Json} {cs : List Char} (h : Reads v cs) {fuel : Nat} (hfuel : cs.length < fuel)
    (rest : List Char) : elements (fuel + 1) (cs ++ ',' :: rest) = (elements fuel rest).map fun r => (v :: r.1, r.2) := by
  cases hrest : elements fuel rest <;> simp [elements, isSpace, h fuel (',' :: rest) hfuel (ends_cons (by decide)), hrest]

/-- The elements of an array are read one after the other. -/
theorem elements_commaSep {xs : List (Json × List Char)} (hne : xs ≠ []) (hxs : ∀ x ∈ xs, Reads x.1 x.2) {fuel : Nat}
    (hfuel : (commaSep (xs.map (·.2))).length + 1 < fuel) (rest : List Char) :
    elements fuel (commaSep (xs.map (·.2)) ++ ']' :: rest) = some (xs.map (·.1), rest) := by
  induction xs generalizing fuel with
  | nil => exact absurd rfl hne
  | cons x xs ih =>
    have hx := hxs x (by simp)
    cases fuel with
    | zero => omega
    | succ fuel =>
      cases xs with
      | nil =>
        simp only [List.map_cons, List.map_nil, commaSep_singleton] at hfuel ⊢
        exact elements_last hx (by omega) rest
      | cons y ys =>
        simp only [List.map_cons, commaSep_cons_cons, List.length_append, List.length_cons] at hfuel
        have hfuel' : (commaSep ((y :: ys).map (·.2))).length + 1 < fuel := by
          simp only [List.map_cons]
          omega
        have hrest := ih (by simp) (fun z hz => hxs z (List.mem_cons_of_mem _ hz)) hfuel'
        have htext : commaSep ((x :: y :: ys).map (·.2)) ++ ']' :: rest =
            x.2 ++ ',' :: ' ' :: (commaSep ((y :: ys).map (·.2)) ++ ']' :: rest) := by
          simp
        rw [htext, elements_more hx (by omega), elements_space, hrest]
        rfl

/-- The first text begins the texts. -/
theorem commaSep_cons (text : List Char) (texts : List (List Char)) (c : Char) (rest : List Char) :
    ∃ c' rest', (c' = ',' ∨ c' = c) ∧ commaSep (text :: texts) ++ c :: rest = text ++ c' :: rest' := by
  cases texts with
  | nil => exact ⟨c, rest, .inr rfl, by simp⟩
  | cons t ts => exact ⟨',', ' ' :: (commaSep (t :: ts) ++ c :: rest), .inl rfl, by simp⟩

/-- An array, its elements with a comma and a space between them. -/
theorem reads_arr {xs : List (Json × List Char)} (hxs : ∀ x ∈ xs, Reads x.1 x.2) :
    Reads (.arr (xs.map (·.1))) ('[' :: commaSep (xs.map (·.2)) ++ [']']) := by
  intro fuel rest hfuel _
  have htext : '[' :: commaSep (xs.map (·.2)) ++ [']'] ++ rest = '[' :: (commaSep (xs.map (·.2)) ++ ']' :: rest) := by
    simp
  rw [htext]
  cases fuel with
  | zero => simp at hfuel
  | succ fuel =>
    cases xs with
    | nil => simp [value, isSpace]
    | cons x xs =>
      have hhead : (skipSpace (commaSep ((x :: xs).map (·.2)) ++ ']' :: rest)).head? ≠ some ']' := by
        obtain ⟨c, rest', hc, hrest'⟩ := commaSep_cons x.2 (xs.map (·.2)) ']' rest
        rw [List.map_cons, hrest']
        exact (hxs x (by simp)).head_ne (ends_cons (by rcases hc with rfl | rfl <;> decide))
      have hfuel' : (commaSep ((x :: xs).map (·.2))).length + 1 < fuel := by
        simp only [List.length_append, List.length_cons, List.length_nil] at hfuel
        omega
      have helements := elements_commaSep (by simp) hxs hfuel' rest
      simp only [value, skipSpace_cons (show isSpace '[' = false from rfl), hhead, helements]
      rfl

/-- An array of plain strings. -/
theorem reads_strings {ss : List String} (hss : ∀ s ∈ ss, Plain s) :
    Reads (.arr (ss.map .str)) ('[' :: commaSep (ss.map quoted) ++ [']']) := by
  have hquoted : ∀ x ∈ ss.map (fun s => (Json.str s, quoted s)), Reads x.1 x.2 := by
    intro x hx
    obtain ⟨s, hs, rfl⟩ := List.mem_map.mp hx
    exact reads_str (hss s hs)
  have hreads := reads_arr hquoted
  rw [List.map_map, List.map_map] at hreads
  exact hreads

/-! ## Objects -/

/-- A member of an object: its key, in quotes, a colon, and its value. -/
abbrev memberText (key : String) (text : List Char) : List Char := quoted key ++ ':' :: ' ' :: text

theorem members_space (fuel : Nat) (cs : List Char) : members fuel (' ' :: cs) = members fuel cs := by
  have hskip : skipSpace (' ' :: cs) = skipSpace cs := by
    simp [skipSpace, isSpace]
  cases fuel with
  | zero => simp [members]
  | succ fuel => simp only [members, hskip]

@[simp] theorem word_singleton (c : Char) (cs : List Char) : word [c] (c :: cs) = some cs := by
  simp [word]

/-- The last member of an object. -/
theorem members_last {key : String} {text : List Char} {v : Json} (hkey : Plain key) (h : Reads v text) {fuel : Nat}
    (hfuel : text.length < fuel) (rest : List Char) :
    members (fuel + 1) (memberText key text ++ '\x7d' :: rest) = some ([(key, v)], rest) := by
  simp [members, quoted, isSpace, string_plain hkey, value_space, h fuel ('\x7d' :: rest) hfuel (ends_cons (by decide))]

/-- A member of an object that others follow. -/
theorem members_more {key : String} {text : List Char} {v : Json} (hkey : Plain key) (h : Reads v text) {fuel : Nat}
    (hfuel : text.length < fuel) (rest : List Char) :
    members (fuel + 1) (memberText key text ++ ',' :: rest) =
      (members fuel rest).map fun r => ((key, v) :: r.1, r.2) := by
  cases hrest : members fuel rest <;>
    simp [members, quoted, isSpace, string_plain hkey, value_space, h fuel (',' :: rest) hfuel (ends_cons (by decide)), hrest]

/-- A key, its value, and a text of the value. -/
structure Member where
  key : String
  value : Json
  text : List Char

/-- The key is plain, and the value is read off its text. -/
def Member.Reads (m : Member) : Prop := Plain m.key ∧ m.value.Reads m.text

/-- The texts of members, with a comma and a space between them. -/
abbrev membersText (ms : List Member) : List Char := commaSep (ms.map fun m => memberText m.key m.text)

/-- The members of an object are read one after the other. -/
theorem members_membersText {ms : List Member} (hne : ms ≠ []) (hms : ∀ m ∈ ms, m.Reads) {fuel : Nat}
    (hfuel : (membersText ms).length + 1 < fuel) (rest : List Char) :
    members fuel (membersText ms ++ '\x7d' :: rest) = some (ms.map fun m => (m.key, m.value), rest) := by
  induction ms generalizing fuel with
  | nil => exact absurd rfl hne
  | cons m ms ih =>
    obtain ⟨hkey, hvalue⟩ := hms m (by simp)
    cases fuel with
    | zero => omega
    | succ fuel =>
      cases ms with
      | nil =>
        simp only [membersText, memberText, List.map_cons, List.map_nil, commaSep_singleton, List.length_append,
          List.length_cons] at hfuel ⊢
        exact members_last hkey hvalue (by omega) rest
      | cons n ns =>
        simp only [membersText, memberText, List.map_cons, commaSep_cons_cons, List.length_append, List.length_cons] at hfuel
        have hfuel' : (membersText (n :: ns)).length + 1 < fuel := by
          simp only [membersText, memberText, List.map_cons]
          omega
        have hrest := ih (by simp) (fun m' hm' => hms m' (List.mem_cons_of_mem _ hm')) hfuel'
        have htext : membersText (m :: n :: ns) ++ '\x7d' :: rest =
            memberText m.key m.text ++ ',' :: ' ' :: (membersText (n :: ns) ++ '\x7d' :: rest) := by
          simp [membersText]
        rw [htext, members_more hkey hvalue (by omega), members_space, hrest]
        rfl

/-- An object, its members with a comma and a space between them. -/
theorem reads_obj {ms : List Member} (hms : ∀ m ∈ ms, m.Reads) :
    Reads (.obj (ms.map fun m => (m.key, m.value))) ('\x7b' :: membersText ms ++ ['\x7d']) := by
  intro fuel rest hfuel _
  have htext : '\x7b' :: membersText ms ++ ['\x7d'] ++ rest = '\x7b' :: (membersText ms ++ '\x7d' :: rest) := by
    simp
  rw [htext]
  cases fuel with
  | zero => simp at hfuel
  | succ fuel =>
    cases ms with
    | nil => simp [value, isSpace, membersText]
    | cons m ms =>
      have hhead : (skipSpace (membersText (m :: ms) ++ '\x7d' :: rest)).head? ≠ some '\x7d' := by
        obtain ⟨c, rest', -, hrest'⟩ := commaSep_cons (memberText m.key m.text)
          (ms.map fun m => memberText m.key m.text) '\x7d' rest
        rw [membersText, List.map_cons, hrest']
        simp [quoted, isSpace]
      have hfuel' : (membersText (m :: ms)).length + 1 < fuel := by
        simp only [List.length_append, List.length_cons, List.length_nil] at hfuel
        omega
      have hmembers := members_membersText (by simp) hms hfuel' rest
      simp only [value, skipSpace_cons (show isSpace '\x7b' = false from rfl), hhead, hmembers]
      rfl

/-! ## Looking into a value -/

/-- The first member of an object with a key. -/
def field? (key : String) : Json → Option Json
  | .obj fields => (fields.find? (·.1 = key)).map (·.2)
  | _ => none

def str? : Json → Option String
  | .str s => some s
  | _ => none

/-- A natural number that is written without an exponent. -/
def nat? : Json → Option Nat
  | .num (.ofNat n) 0 => some n
  | _ => none

/-- The strings of an array of only strings. -/
def strs? : Json → Option (List String)
  | .arr xs => xs.mapM str?
  | _ => none

theorem strs?_map (ss : List String) : strs? (.arr (ss.map .str)) = some ss := by
  unfold strs?
  induction ss with
  | nil => rfl
  | cons s ss ih =>
    dsimp only at ih ⊢
    rw [List.map_cons, List.mapM_cons, ih]
    rfl

end Json
