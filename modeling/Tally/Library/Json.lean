import Mathlib.Data.List.Sort
import Mathlib.Data.String.Basic
import Tally.Library.Words

/-!
# JSON values and their texts

The values a JSON encoder accepts and the text it writes for them, with the
separators, the escaping of non-ASCII characters and the sorting of keys as
parameters. Two facts carry the uses: the compact text determines the value,
and a word without punctuation occurs in a text only inside one of its strings.
-/

set_option autoImplicit false

namespace Library

open Words

/-- A JSON value; the members of an object stand in insertion order. -/
inductive Json where
  | null
  | bool (value : Bool)
  | int (value : Int)
  | str (value : String)
  | arr (items : List Json)
  | obj (members : List (String × Json))

namespace Json

/-! ## Sorting of keys -/

mutual
/-- The value with the members of every object in the order of their keys. -/
def sortKeys : Json → Json
  | .arr items => .arr (sortItems items)
  | .obj members => .obj ((sortMembers members).insertionSort fun a b => a.1 ≤ b.1)
  | .null => .null
  | .bool value => .bool value
  | .int value => .int value
  | .str value => .str value
def sortItems : List Json → List Json
  | [] => []
  | item :: items => sortKeys item :: sortItems items
def sortMembers : List (String × Json) → List (String × Json)
  | [] => []
  | (key, value) :: members => (key, sortKeys value) :: sortMembers members
end

/-! ## Rendering -/

/-- Separators between items and after a key, and whether non-ASCII characters
are escaped. -/
structure Style where
  itemSeparator : List Char
  keySeparator : List Char
  ascii : Bool

/-- The encoder's default separators. -/
def Style.spaced : Style := ⟨[',', ' '], [':', ' '], true⟩

/-- Separators without blanks, non-ASCII characters escaped. -/
def Style.compactAscii : Style := ⟨[','], [':'], true⟩

/-- Separators without blanks, non-ASCII characters as they are. -/
def Style.compact : Style := ⟨[','], [':'], false⟩

/-- Separators without blanks. -/
def Style.packed (ascii : Bool) : Style := ⟨[','], [':'], ascii⟩

@[simp] theorem packed_itemSeparator (ascii : Bool) :
    (Style.packed ascii).itemSeparator = [','] := rfl
@[simp] theorem packed_keySeparator (ascii : Bool) :
    (Style.packed ascii).keySeparator = [':'] := rfl
@[simp] theorem packed_ascii (ascii : Bool) : (Style.packed ascii).ascii = ascii := rfl

/-- `\uXXXX` of a sixteen-bit code unit. -/
def unicodeEscape (n : Nat) : List Char :=
  ['\\', 'u', hexDigit (n / 4096 % 16), hexDigit (n / 256 % 16), hexDigit (n / 16 % 16),
    hexDigit (n % 16)]

def escapeChar (ascii : Bool) (c : Char) : List Char :=
  if c = '"' then ['\\', '"']
  else if c = '\\' then ['\\', '\\']
  else if c = '\n' then ['\\', 'n']
  else if c = '\r' then ['\\', 'r']
  else if c = '\t' then ['\\', 't']
  else if c.toNat = 12 then ['\\', 'f']
  else if c.toNat = 8 then ['\\', 'b']
  else if c.toNat < 32 then unicodeEscape c.toNat
  else if ascii && decide (127 ≤ c.toNat) && decide (c.toNat ≠ 127) then
    if c.toNat < 65536 then unicodeEscape c.toNat
    else unicodeEscape (55296 + (c.toNat - 65536) / 1024) ++
      unicodeEscape (56320 + (c.toNat - 65536) % 1024)
  else [c]

def escape (ascii : Bool) (text : List Char) : List Char := text.flatMap (escapeChar ascii)

def renderString (ascii : Bool) (value : String) : List Char :=
  '"' :: escape ascii value.toList ++ ['"']

def renderInt (value : Int) : List Char :=
  if value < 0 then '-' :: Nat.toDigits 10 value.natAbs else Nat.toDigits 10 value.natAbs

mutual
def render (style : Style) : Json → List Char
  | .null => ['n', 'u', 'l', 'l']
  | .bool true => ['t', 'r', 'u', 'e']
  | .bool false => ['f', 'a', 'l', 's', 'e']
  | .int value => renderInt value
  | .str value => renderString style.ascii value
  | .arr [] => ['[', ']']
  | .arr (item :: items) => '[' :: render style item ++ renderItems style items
  | .obj [] => ['{', '}']
  | .obj ((key, value) :: members) =>
    '{' :: renderString style.ascii key ++ style.keySeparator ++ render style value ++
      renderMembers style members
/-- The items after the first one and the closing bracket. -/
def renderItems (style : Style) : List Json → List Char
  | [] => [']']
  | item :: items => style.itemSeparator ++ render style item ++ renderItems style items
/-- The members after the first one and the closing brace. -/
def renderMembers (style : Style) : List (String × Json) → List Char
  | [] => ['}']
  | (key, value) :: members =>
    style.itemSeparator ++ renderString style.ascii key ++ style.keySeparator ++
      render style value ++ renderMembers style members
end

/-- The text of a value. -/
def dumps (style : Style) (value : Json) : String := String.ofList (render style value)

@[simp] theorem toList_dumps (style : Style) (value : Json) :
    (dumps style value).toList = render style value := by
  simp [dumps]

/-! ## The compact text determines the value -/

def hexValue (c : Char) : Nat := if c.toNat < 58 then c.toNat - 48 else c.toNat - 87

theorem hexValue_hexDigit (n : Nat) (hn : n < 16) : hexValue (hexDigit n) = n := by
  revert n
  decide

/-- Reads one escaped character of a compact text. -/
def unescapeChar : List Char → Option (Char × List Char)
  | '\\' :: '"' :: text => some ('"', text)
  | '\\' :: '\\' :: text => some ('\\', text)
  | '\\' :: 'n' :: text => some ('\n', text)
  | '\\' :: 'r' :: text => some ('\r', text)
  | '\\' :: 't' :: text => some ('\t', text)
  | '\\' :: 'f' :: text => some (Char.ofNat 12, text)
  | '\\' :: 'b' :: text => some (Char.ofNat 8, text)
  | '\\' :: 'u' :: _ :: _ :: high :: low :: text =>
    some (Char.ofNat (hexValue high * 16 + hexValue low), text)
  | c :: text => some (c, text)
  | [] => none

theorem unescapeChar_unicode (a b high low : Char) (text : List Char) :
    unescapeChar ('\\' :: 'u' :: a :: b :: high :: low :: text) =
      some (Char.ofNat (hexValue high * 16 + hexValue low), text) := rfl

/-- A character that is no backslash is read as itself. -/
theorem unescapeChar_self {c : Char} (hc : c ≠ '\\') (text : List Char) :
    unescapeChar (c :: text) = some (c, text) := by
  unfold unescapeChar
  split
  all_goals first
    | (rename_i heq; exact absurd (List.cons.inj heq).1 hc)
    | (rename_i heq; obtain ⟨rfl, rfl⟩ := List.cons.inj heq; rfl)
    | (rename_i heq; exact absurd heq (List.cons_ne_nil _ _))

theorem unescapeChar_escapeChar (c : Char) (text : List Char) :
    unescapeChar (escapeChar false c ++ text) = some (c, text) := by
  unfold escapeChar
  by_cases h1 : c = '"'
  · subst h1; rfl
  rw [if_neg h1]
  by_cases h2 : c = '\\'
  · subst h2; rfl
  rw [if_neg h2]
  by_cases h3 : c = '\n'
  · subst h3; rfl
  rw [if_neg h3]
  by_cases h4 : c = '\r'
  · subst h4; rfl
  rw [if_neg h4]
  by_cases h5 : c = '\t'
  · subst h5; rfl
  rw [if_neg h5]
  by_cases h6 : c.toNat = 12
  · have hc : c = Char.ofNat 12 := by rw [← h6, Char.ofNat_toNat]
    subst hc; rfl
  rw [if_neg h6]
  by_cases h7 : c.toNat = 8
  · have hc : c = Char.ofNat 8 := by rw [← h7, Char.ofNat_toNat]
    subst hc; rfl
  rw [if_neg h7]
  by_cases h8 : c.toNat < 32
  · rw [if_pos h8]
    show unescapeChar ('\\' :: 'u' :: _ :: _ :: _ :: _ :: text) = _
    rw [unescapeChar_unicode, hexValue_hexDigit _ (by omega), hexValue_hexDigit _ (by omega)]
    have hn : c.toNat / 16 % 16 * 16 + c.toNat % 16 = c.toNat := by omega
    rw [hn, Char.ofNat_toNat]
  · rw [if_neg h8]
    show unescapeChar (c :: text) = some (c, text)
    exact unescapeChar_self h2 text

/-! Reading an escaped character of an ASCII text, code unit by code unit. -/

def hexUnit (a b c d : Char) : Nat :=
  hexValue a * 4096 + hexValue b * 256 + hexValue c * 16 + hexValue d

def readUnit : List Char → Option (Nat × List Char)
  | '\\' :: 'u' :: a :: b :: c :: d :: text => some (hexUnit a b c d, text)
  | _ => none

theorem readUnit_unicodeEscape {n : Nat} (hn : n < 65536) (text : List Char) :
    readUnit (unicodeEscape n ++ text) = some (n, text) := by
  show some (hexUnit _ _ _ _, text) = some (n, text)
  unfold hexUnit
  rw [hexValue_hexDigit _ (by omega), hexValue_hexDigit _ (by omega),
    hexValue_hexDigit _ (by omega), hexValue_hexDigit _ (by omega)]
  have hsum : n / 4096 % 16 * 4096 + n / 256 % 16 * 256 + n / 16 % 16 * 16 + n % 16 = n := by
    omega
  rw [hsum]

/-- A character that is no backslash begins no code unit. -/
theorem readUnit_self {c : Char} (hc : c ≠ '\\') (text : List Char) :
    readUnit (c :: text) = none := by
  unfold readUnit
  split
  · rename_i heq
    exact absurd (List.cons.inj heq).1 hc
  · rfl

/-- A high surrogate is read together with the low one that follows it. -/
def readAscii (text : List Char) : Option (Char × List Char) :=
  match readUnit text with
  | none => unescapeChar text
  | some (n, rest) =>
    if 55296 ≤ n ∧ n < 56320 then
      (readUnit rest).map fun low =>
        (Char.ofNat (65536 + (n - 55296) * 1024 + (low.1 - 56320)), low.2)
    else some (Char.ofNat n, rest)

theorem readAscii_unicodeEscape {n : Nat} (hn : n < 65536) (hplain : ¬(55296 ≤ n ∧ n < 56320))
    (text : List Char) : readAscii (unicodeEscape n ++ text) = some (Char.ofNat n, text) := by
  unfold readAscii
  rw [readUnit_unicodeEscape hn]
  exact if_neg hplain

theorem readAscii_escapeChar (c : Char) (text : List Char) :
    readAscii (escapeChar true c ++ text) = some (c, text) := by
  have hvalid : c.toNat < 55296 ∨ (57343 < c.toNat ∧ c.toNat < 1114112) := c.valid
  unfold escapeChar
  by_cases h1 : c = '"'
  · subst h1; rfl
  rw [if_neg h1]
  by_cases h2 : c = '\\'
  · subst h2; rfl
  rw [if_neg h2]
  by_cases h3 : c = '\n'
  · subst h3; rfl
  rw [if_neg h3]
  by_cases h4 : c = '\r'
  · subst h4; rfl
  rw [if_neg h4]
  by_cases h5 : c = '\t'
  · subst h5; rfl
  rw [if_neg h5]
  by_cases h6 : c.toNat = 12
  · have hc : c = Char.ofNat 12 := by rw [← h6, Char.ofNat_toNat]
    subst hc; rfl
  rw [if_neg h6]
  by_cases h7 : c.toNat = 8
  · have hc : c = Char.ofNat 8 := by rw [← h7, Char.ofNat_toNat]
    subst hc; rfl
  rw [if_neg h7]
  by_cases h8 : c.toNat < 32
  · rw [if_pos h8, readAscii_unicodeEscape (by omega) (by omega), Char.ofNat_toNat]
  rw [if_neg h8]
  by_cases h9 : (true && decide (127 ≤ c.toNat) && decide (c.toNat ≠ 127)) = true
  · rw [if_pos h9]
    by_cases h10 : c.toNat < 65536
    · rw [if_pos h10, readAscii_unicodeEscape (by omega) (by omega), Char.ofNat_toNat]
    · rw [if_neg h10, List.append_assoc]
      unfold readAscii
      rw [readUnit_unicodeEscape (by omega)]
      dsimp only
      rw [if_pos (by omega), readUnit_unicodeEscape (by omega), Option.map_some]
      have hpair : 65536 + (55296 + (c.toNat - 65536) / 1024 - 55296) * 1024 +
          (56320 + (c.toNat - 65536) % 1024 - 56320) = c.toNat := by
        omega
      rw [hpair, Char.ofNat_toNat]
  · rw [if_neg h9]
    unfold readAscii
    rw [List.singleton_append, readUnit_self h2]
    exact unescapeChar_self h2 text

/-- The escaped characters are read one by one. -/
theorem escapeChar_readable (ascii : Bool) : ∃ read : List Char → Option (Char × List Char),
    ∀ c text, read (escapeChar ascii c ++ text) = some (c, text) := by
  cases ascii with
  | false => exact ⟨unescapeChar, unescapeChar_escapeChar⟩
  | true => exact ⟨readAscii, readAscii_escapeChar⟩

/-- An escape sequence begins with a backslash; any other character but the
quotation mark stands for itself. -/
theorem escapeChar_cases (ascii : Bool) (c : Char) :
    (∃ tail, escapeChar ascii c = '\\' :: tail) ∨ (escapeChar ascii c = [c] ∧ c ≠ '"') := by
  unfold escapeChar unicodeEscape
  by_cases h1 : c = '"'
  · exact Or.inl ⟨_, if_pos h1⟩
  rw [if_neg h1]
  by_cases h2 : c = '\\'
  · exact Or.inl ⟨_, if_pos h2⟩
  rw [if_neg h2]
  by_cases h3 : c = '\n'
  · exact Or.inl ⟨_, if_pos h3⟩
  rw [if_neg h3]
  by_cases h4 : c = '\r'
  · exact Or.inl ⟨_, if_pos h4⟩
  rw [if_neg h4]
  by_cases h5 : c = '\t'
  · exact Or.inl ⟨_, if_pos h5⟩
  rw [if_neg h5]
  by_cases h6 : c.toNat = 12
  · exact Or.inl ⟨_, if_pos h6⟩
  rw [if_neg h6]
  by_cases h7 : c.toNat = 8
  · exact Or.inl ⟨_, if_pos h7⟩
  rw [if_neg h7]
  by_cases h8 : c.toNat < 32
  · exact Or.inl ⟨_, if_pos h8⟩
  rw [if_neg h8]
  by_cases h9 : (ascii && decide (127 ≤ c.toNat) && decide (c.toNat ≠ 127)) = true
  · rw [if_pos h9]
    by_cases h10 : c.toNat < 65536
    · exact Or.inl ⟨_, if_pos h10⟩
    · rw [if_neg h10]
      exact Or.inl ⟨_, rfl⟩
  · exact Or.inr ⟨if_neg h9, h1⟩

theorem escapeChar_head_ne_quote (ascii : Bool) (c : Char) (text rest : List Char) :
    escapeChar ascii c ++ text ≠ '"' :: rest := by
  intro h
  rcases escapeChar_cases ascii c with ⟨tail, htail⟩ | ⟨hself, hne⟩
  · rw [htail] at h
    exact absurd (List.cons.inj h).1 (by decide)
  · rw [hself] at h
    exact hne (List.cons.inj h).1

theorem escape_cons (ascii : Bool) (c : Char) (text : List Char) :
    escape ascii (c :: text) = escapeChar ascii c ++ escape ascii text := rfl

/-- The escaped characters up to the closing quote determine the string and what
follows it. -/
theorem escape_quote_inj (ascii : Bool) (a b r s : List Char)
    (h : escape ascii a ++ '"' :: r = escape ascii b ++ '"' :: s) : a = b ∧ r = s := by
  obtain ⟨read, hreadable⟩ := escapeChar_readable ascii
  induction a generalizing b with
  | nil =>
      cases b with
      | nil => simpa [escape] using h
      | cons d b =>
          rw [escape_cons, List.append_assoc] at h
          exact absurd h.symm (escapeChar_head_ne_quote ascii d _ _)
  | cons c a ih =>
      cases b with
      | nil =>
          rw [escape_cons, List.append_assoc] at h
          exact absurd h (escapeChar_head_ne_quote ascii c _ _)
      | cons d b =>
          rw [escape_cons, escape_cons, List.append_assoc, List.append_assoc] at h
          have hread := congrArg read h
          rw [hreadable, hreadable] at hread
          simp only [Option.some.injEq, Prod.mk.injEq] at hread
          obtain ⟨rfl, hrest⟩ := hread
          obtain ⟨rfl, rfl⟩ := ih b hrest
          exact ⟨rfl, rfl⟩

theorem renderString_append_inj (ascii : Bool) (a b : String) (r s : List Char)
    (h : renderString ascii a ++ r = renderString ascii b ++ s) : a = b ∧ r = s := by
  simp only [renderString, List.cons_append, List.append_assoc, List.nil_append,
    List.cons.injEq, true_and] at h
  obtain ⟨hab, hrs⟩ := escape_quote_inj _ _ _ _ _ h
  exact ⟨String.toList_injective hab, hrs⟩

/-- A text that does not go on with a digit. -/
def NoDigit (text : List Char) : Prop := ∀ c ∈ text.head?, c.isDigit = false

theorem digits_append_inj (a b r s : List Char) (ha : ∀ c ∈ a, c.isDigit = true)
    (hb : ∀ c ∈ b, c.isDigit = true) (hr : NoDigit r) (hs : NoDigit s)
    (h : a ++ r = b ++ s) : a = b ∧ r = s := by
  induction a generalizing b with
  | nil =>
      cases b with
      | nil => exact ⟨rfl, h⟩
      | cons d b =>
          have hd := hr d (by rw [List.nil_append] at h; simp [h])
          rw [hb d (List.mem_cons_self ..)] at hd
          exact absurd hd (by decide)
  | cons c a ih =>
      cases b with
      | nil =>
          have hc := hs c (by rw [List.nil_append] at h; simp [← h])
          rw [ha c (List.mem_cons_self ..)] at hc
          exact absurd hc (by decide)
      | cons d b =>
          simp only [List.cons_append, List.cons.injEq] at h
          obtain ⟨rfl, h⟩ := h
          obtain ⟨rfl, rfl⟩ := ih b (fun x hx => ha x (List.mem_cons_of_mem _ hx))
            (fun x hx => hb x (List.mem_cons_of_mem _ hx)) h
          exact ⟨rfl, rfl⟩

theorem isDigit_of_mem_toDigits (n : Nat) : ∀ c ∈ Nat.toDigits 10 n, c.isDigit = true :=
  fun _ hc => Nat.isDigit_of_mem_toDigits (by decide) (by decide) hc

theorem toDigits_injective {m n : Nat} (h : Nat.toDigits 10 m = Nat.toDigits 10 n) : m = n := by
  rw [← Nat.ofDigitChars_ten_toDigits (n := m), h, Nat.ofDigitChars_ten_toDigits]

theorem toDigits_head_ne_minus (n : Nat) (r s : List Char) :
    Nat.toDigits 10 n ++ r ≠ '-' :: s := by
  intro h
  cases hd : Nat.toDigits 10 n with
  | nil => exact Nat.toDigits_ne_nil hd
  | cons c text =>
      rw [hd] at h
      have hc : c = '-' := (List.cons.inj h).1
      have hdigit := isDigit_of_mem_toDigits n c (by rw [hd]; exact List.mem_cons_self ..)
      rw [hc] at hdigit
      exact absurd hdigit (by decide)

theorem renderInt_append_inj (a b : Int) (r s : List Char) (hr : NoDigit r) (hs : NoDigit s)
    (h : renderInt a ++ r = renderInt b ++ s) : a = b ∧ r = s := by
  unfold renderInt at h
  by_cases ha : a < 0
  · by_cases hb : b < 0
    · simp only [ha, hb, if_true, List.cons_append, List.cons.injEq, true_and] at h
      obtain ⟨hd, hrs⟩ := digits_append_inj _ _ _ _ (isDigit_of_mem_toDigits _)
        (isDigit_of_mem_toDigits _) hr hs h
      have hn := toDigits_injective hd
      exact ⟨by omega, hrs⟩
    · simp only [ha, hb, if_true, if_false, List.cons_append] at h
      exact absurd h.symm (toDigits_head_ne_minus _ _ _)
  · by_cases hb : b < 0
    · simp only [ha, hb, if_true, if_false, List.cons_append] at h
      exact absurd h (toDigits_head_ne_minus _ _ _)
    · simp only [ha, hb, if_false] at h
      obtain ⟨hd, hrs⟩ := digits_append_inj _ _ _ _ (isDigit_of_mem_toDigits _)
        (isDigit_of_mem_toDigits _) hr hs h
      have hn := toDigits_injective hd
      exact ⟨by omega, hrs⟩

/-- Which form of value a text begins, read off its first character. -/
def formOfHead (c : Char) : Nat :=
  if c = 'n' then 0 else if c = 't' then 1 else if c = 'f' then 2 else if c = '"' then 4
  else if c = '[' then 5 else if c = '{' then 6 else if c = ']' then 7 else 3

def form : Json → Nat
  | .null => 0
  | .bool true => 1
  | .bool false => 2
  | .int _ => 3
  | .str _ => 4
  | .arr _ => 5
  | .obj _ => 6

theorem formOfHead_digit {c : Char} (hc : c.isDigit = true) : formOfHead c = 3 := by
  have hne : ∀ d : Char, d.isDigit = false → c ≠ d := by
    rintro d hd rfl
    rw [hc] at hd
    exact absurd hd (by decide)
  unfold formOfHead
  rw [if_neg (hne 'n' (by decide)), if_neg (hne 't' (by decide)), if_neg (hne 'f' (by decide)),
    if_neg (hne '"' (by decide)), if_neg (hne '[' (by decide)), if_neg (hne '{' (by decide)),
    if_neg (hne ']' (by decide))]

theorem renderInt_head (value : Int) (text : List Char) :
    (renderInt value ++ text).head?.map formOfHead = some 3 := by
  unfold renderInt
  split
  · rfl
  · cases hd : Nat.toDigits 10 value.natAbs with
    | nil => exact absurd hd Nat.toDigits_ne_nil
    | cons c digits =>
        have hc := isDigit_of_mem_toDigits value.natAbs c (by rw [hd]; exact List.mem_cons_self ..)
        simp [formOfHead_digit hc]

theorem render_head (style : Style) (value : Json) (text : List Char) :
    (render style value ++ text).head?.map formOfHead = some value.form := by
  cases value with
  | null => simp [render, form, formOfHead]
  | bool value => cases value <;> simp [render, form, formOfHead]
  | int value => rw [render, form]; exact renderInt_head value text
  | str value => simp [render, renderString, form, formOfHead]
  | arr items => cases items <;> simp [render, form, formOfHead]
  | obj members => rcases members with _ | ⟨⟨key, value⟩, members⟩ <;> simp [render, form, formOfHead]

theorem form_eq_of_render_eq {style : Style} {a b : Json} {r s : List Char}
    (h : render style a ++ r = render style b ++ s) : a.form = b.form := by
  have ha := render_head style a r
  rw [h, render_head style b s] at ha
  exact (Option.some.inj ha).symm

theorem noDigit_renderItems (ascii : Bool) (items : List Json) (text : List Char) :
    NoDigit (renderItems (.packed ascii) items ++ text) := by
  intro c hc
  cases items <;> simp [renderItems, Style.packed] at hc <;> subst hc <;> decide

theorem noDigit_renderMembers (ascii : Bool) (members : List (String × Json)) (text : List Char) :
    NoDigit (renderMembers (.packed ascii) members ++ text) := by
  intro c hc
  rcases members with _ | ⟨⟨key, value⟩, members⟩ <;>
    simp [renderMembers, Style.packed] at hc <;> subst hc <;> decide

mutual
/-- The compact text of a value, read up to a character that is no digit,
determines the value and what follows it. -/
theorem render_append_inj (ascii : Bool) (a b : Json) (r s : List Char) (hr : NoDigit r) (hs : NoDigit s)
    (h : render (.packed ascii) a ++ r = render (.packed ascii) b ++ s) : a = b ∧ r = s := by
  have hform := form_eq_of_render_eq h
  match a with
  | .null =>
      cases b with
      | null => exact ⟨rfl, by simpa [render] using h⟩
      | bool value => cases value <;> simp [form] at hform
      | _ => simp [form] at hform
  | .bool true =>
      cases b with
      | bool value =>
          cases value
          · simp [form] at hform
          · exact ⟨rfl, by simpa [render] using h⟩
      | _ => simp [form] at hform
  | .bool false =>
      cases b with
      | bool value =>
          cases value
          · exact ⟨rfl, by simpa [render] using h⟩
          · simp [form] at hform
      | _ => simp [form] at hform
  | .int x =>
      cases b with
      | int y =>
          rw [render, render] at h
          obtain ⟨rfl, rfl⟩ := renderInt_append_inj x y r s hr hs h
          exact ⟨rfl, rfl⟩
      | bool value => cases value <;> simp [form] at hform
      | _ => simp [form] at hform
  | .str x =>
      cases b with
      | str y =>
          rw [render, render, packed_ascii] at h
          obtain ⟨rfl, rfl⟩ := renderString_append_inj ascii x y r s h
          exact ⟨rfl, rfl⟩
      | bool value => cases value <;> simp [form] at hform
      | _ => simp [form] at hform
  | .arr [] =>
      cases b with
      | arr ys =>
          cases ys with
          | nil => exact ⟨rfl, by simpa [render] using h⟩
          | cons y ys =>
              simp only [render, List.cons_append, List.nil_append, List.append_assoc,
                List.cons.injEq, true_and] at h
              have hy := render_head (.packed ascii) y (renderItems (.packed ascii) ys ++ s)
              rw [← h] at hy
              cases y with
              | bool value => cases value <;> simp [form, formOfHead] at hy
              | int value => simp [form, formOfHead] at hy
              | _ => simp [form, formOfHead] at hy
      | bool value => cases value <;> simp [form] at hform
      | _ => simp [form] at hform
  | .arr (x :: xs) =>
      cases b with
      | arr ys =>
          cases ys with
          | nil =>
              simp only [render, List.cons_append, List.nil_append, List.append_assoc,
                List.cons.injEq, true_and] at h
              have hx := render_head (.packed ascii) x (renderItems (.packed ascii) xs ++ r)
              rw [h] at hx
              cases x with
              | bool value => cases value <;> simp [form, formOfHead] at hx
              | int value => simp [form, formOfHead] at hx
              | _ => simp [form, formOfHead] at hx
          | cons y ys =>
              simp only [render, List.cons_append, List.append_assoc,
                List.cons.injEq, true_and] at h
              obtain ⟨rfl, hitems⟩ := render_append_inj ascii x y _ _ (noDigit_renderItems ascii xs r)
                (noDigit_renderItems ascii ys s) h
              obtain ⟨rfl, rfl⟩ := renderItems_append_inj ascii xs ys r s hitems
              exact ⟨rfl, rfl⟩
      | bool value => cases value <;> simp [form] at hform
      | _ => simp [form] at hform
  | .obj [] =>
      cases b with
      | obj ys =>
          cases ys with
          | nil => exact ⟨rfl, by simpa [render] using h⟩
          | cons y ys =>
              obtain ⟨key, y⟩ := y
              simp [render, renderString] at h
      | bool value => cases value <;> simp [form] at hform
      | _ => simp [form] at hform
  | .obj ((kx, x) :: xs) =>
      cases b with
      | obj ys =>
          cases ys with
          | nil => simp [render, renderString] at h
          | cons y ys =>
              obtain ⟨ky, y⟩ := y
              simp only [render, packed_keySeparator, packed_ascii, List.cons_append,
                List.append_assoc, List.cons.injEq, true_and] at h
              obtain ⟨rfl, hvalue⟩ := renderString_append_inj ascii kx ky _ _ h
              simp only [List.nil_append, List.cons.injEq, true_and] at hvalue
              obtain ⟨rfl, hmembers⟩ := render_append_inj ascii x y _ _ (noDigit_renderMembers ascii xs r)
                (noDigit_renderMembers ascii ys s) hvalue
              obtain ⟨rfl, rfl⟩ := renderMembers_append_inj ascii xs ys r s hmembers
              exact ⟨rfl, rfl⟩
      | bool value => cases value <;> simp [form] at hform
      | _ => simp [form] at hform
theorem renderItems_append_inj (ascii : Bool) (xs ys : List Json) (r s : List Char)
    (h : renderItems (.packed ascii) xs ++ r = renderItems (.packed ascii) ys ++ s) : xs = ys ∧ r = s := by
  match xs with
  | [] =>
      cases ys with
      | nil => exact ⟨rfl, by simpa [renderItems] using h⟩
      | cons y ys => simp [renderItems, Style.packed] at h
  | x :: xs =>
      cases ys with
      | nil => simp [renderItems, Style.packed] at h
      | cons y ys =>
          simp only [renderItems, packed_itemSeparator, List.cons_append, List.nil_append,
            List.append_assoc, List.cons.injEq, true_and] at h
          obtain ⟨rfl, hitems⟩ := render_append_inj ascii x y _ _ (noDigit_renderItems ascii xs r)
            (noDigit_renderItems ascii ys s) h
          obtain ⟨rfl, rfl⟩ := renderItems_append_inj ascii xs ys r s hitems
          exact ⟨rfl, rfl⟩
theorem renderMembers_append_inj (ascii : Bool) (xs ys : List (String × Json)) (r s : List Char)
    (h : renderMembers (.packed ascii) xs ++ r = renderMembers (.packed ascii) ys ++ s) :
    xs = ys ∧ r = s := by
  match xs with
  | [] =>
      cases ys with
      | nil => exact ⟨rfl, by simpa [renderMembers] using h⟩
      | cons y ys => simp [renderMembers, Style.packed] at h
  | (kx, x) :: xs =>
      cases ys with
      | nil => simp [renderMembers, Style.packed] at h
      | cons y ys =>
          obtain ⟨ky, y⟩ := y
          simp only [renderMembers, packed_itemSeparator, packed_keySeparator, packed_ascii,
            List.cons_append, List.nil_append, List.append_assoc, List.cons.injEq, true_and] at h
          obtain ⟨rfl, hvalue⟩ := renderString_append_inj ascii kx ky _ _ h
          simp only [List.cons.injEq, true_and] at hvalue
          obtain ⟨rfl, hmembers⟩ := render_append_inj ascii x y _ _ (noDigit_renderMembers ascii xs r)
            (noDigit_renderMembers ascii ys s) hvalue
          obtain ⟨rfl, rfl⟩ := renderMembers_append_inj ascii xs ys r s hmembers
          exact ⟨rfl, rfl⟩
end

/-- Two values with one packed text are equal. -/
theorem dumps_packed_injective (ascii : Bool) {a b : Json}
    (h : dumps (.packed ascii) a = dumps (.packed ascii) b) : a = b := by
  have htext := congrArg String.toList h
  rw [toList_dumps, toList_dumps] at htext
  have hnil : NoDigit [] := fun _ hc => by simp at hc
  exact (render_append_inj ascii a b [] [] hnil hnil (by simpa using htext)).1

/-- Two values with one compact text are equal. -/
theorem dumps_compact_injective {a b : Json} (h : dumps .compact a = dumps .compact b) : a = b :=
  dumps_packed_injective false h

theorem dumps_compactAscii_injective {a b : Json}
    (h : dumps .compactAscii a = dumps .compactAscii b) : a = b :=
  dumps_packed_injective true h

/-! ## Words in a text -/

mutual
/-- The strings a value holds, keys included. -/
def strings : Json → List String
  | .str value => [value]
  | .arr items => itemStrings items
  | .obj members => memberStrings members
  | .null => []
  | .bool _ => []
  | .int _ => []
def itemStrings : List Json → List String
  | [] => []
  | item :: items => strings item ++ itemStrings items
def memberStrings : List (String × Json) → List String
  | [] => []
  | (key, value) :: members => key :: (strings value ++ memberStrings members)
end

/-- A word, read through a map of characters, that uses neither the punctuation
of a spaced text nor only the characters of its numbers and constants. -/
structure IsWord (f : Char → Char) (word : List Char) : Prop where
  punctuation : ∀ c ∈ ['"', '[', ']', '{', '}', ',', ':', ' '], f c ∉ word
  plain : ∃ letter ∈ word, (∀ c : Char, c.isDigit = true → f c ≠ letter) ∧
    letter ∉ ['-', 'n', 'u', 'l', 't', 'r', 'e', 'f', 'a', 's'].map f

section Words

variable {f : Char → Char} {word : List Char}

theorem IsWord.avoids_plain (hword : IsWord f word) {text : List Char}
    (htext : ∀ c ∈ text, c.isDigit = true ∨
      c ∈ ['-', 'n', 'u', 'l', 't', 'r', 'e', 'f', 'a', 's']) :
    Avoids word (text.map f) := by
  obtain ⟨letter, hletter, hdigit, hconst⟩ := hword.plain
  refine avoids_of_not_mem hletter ?_
  intro hmem
  obtain ⟨c, hc, hfc⟩ := List.mem_map.mp hmem
  rcases htext c hc with hd | hk
  · exact hdigit c hd hfc
  · exact hconst (List.mem_map.mpr ⟨c, hk, hfc⟩)

theorem IsWord.avoids_renderInt (hword : IsWord f word) (value : Int) :
    Avoids word ((renderInt value).map f) := by
  refine hword.avoids_plain ?_
  intro c hc
  unfold renderInt at hc
  split at hc
  · rcases List.mem_cons.mp hc with rfl | hd
    · exact Or.inr (by decide)
    · exact Or.inl (isDigit_of_mem_toDigits _ c hd)
  · exact Or.inl (isDigit_of_mem_toDigits _ c hc)

theorem IsWord.avoids_cons (hword : IsWord f word) {c : Char}
    (hc : c ∈ ['"', '[', ']', '{', '}', ',', ':', ' ']) {text : List Char}
    (htext : Avoids word (text.map f)) : Avoids word ((c :: text).map f) :=
  avoids_cons_separator (hword.punctuation c hc) htext

theorem IsWord.avoids_append (hword : IsWord f word) {c : Char}
    (hc : c ∈ ['"', '[', ']', '{', '}', ',', ':', ' ']) {left right : List Char}
    (hleft : Avoids word (left.map f)) (hright : Avoids word (right.map f)) :
    Avoids word ((left ++ c :: right).map f) := by
  rw [List.map_append, List.map_cons]
  exact avoids_append_separator (hword.punctuation c hc) hleft hright

theorem IsWord.avoids_nil (hword : IsWord f word) : Avoids word ([].map f) :=
  hword.avoids_plain (by simp)

/-- A quoted string in front of a text. -/
theorem IsWord.avoids_renderString (hword : IsWord f word) {value : String} {text : List Char}
    (hvalue : Avoids word ((escape true value.toList).map f)) (htext : Avoids word (text.map f)) :
    Avoids word ((renderString true value ++ text).map f) := by
  have hshape : renderString true value ++ text =
      '"' :: (escape true value.toList ++ '"' :: text) := by simp [renderString]
  rw [hshape]
  exact hword.avoids_cons (by simp) (hword.avoids_append (by simp) hvalue htext)

@[simp] theorem spaced_itemSeparator : Style.spaced.itemSeparator = [',', ' '] := rfl
@[simp] theorem spaced_keySeparator : Style.spaced.keySeparator = [':', ' '] := rfl
@[simp] theorem spaced_ascii : Style.spaced.ascii = true := rfl

mutual
/-- A word avoids the text of a value, and whatever follows it after a
separator, when it avoids the strings of the value. -/
theorem IsWord.avoids_render_append (hword : IsWord f word) (value : Json)
    (hstrings : ∀ s ∈ strings value, Avoids word ((escape true s.toList).map f))
    {c : Char} (hc : c ∈ ['"', '[', ']', '{', '}', ',', ':', ' ']) {text : List Char}
    (htext : Avoids word (text.map f)) :
    Avoids word ((render .spaced value ++ c :: text).map f) := by
  match value with
  | .null =>
      rw [render]
      exact hword.avoids_append hc (hword.avoids_plain (by simp)) htext
  | .bool true =>
      rw [render]
      exact hword.avoids_append hc (hword.avoids_plain (by simp)) htext
  | .bool false =>
      rw [render]
      exact hword.avoids_append hc (hword.avoids_plain (by simp)) htext
  | .int value =>
      rw [render]
      exact hword.avoids_append hc (hword.avoids_renderInt value) htext
  | .str value =>
      rw [render]
      exact hword.avoids_renderString (hstrings value (by simp [strings])) (hword.avoids_cons hc htext)
  | .arr [] =>
      rw [render]
      exact hword.avoids_cons (by simp) (hword.avoids_cons (by simp) (hword.avoids_cons hc htext))
  | .arr (item :: items) =>
      rw [render, List.cons_append, List.cons_append, List.append_assoc]
      simp only [strings, itemStrings, List.mem_append] at hstrings
      refine hword.avoids_cons (by simp) ?_
      obtain ⟨d, rest, hd, hrest, hshape⟩ := hword.renderItems_shape items
        (fun s hs => hstrings s (Or.inr hs)) hc htext
      rw [hshape]
      exact hword.avoids_render_append item (fun s hs => hstrings s (Or.inl hs)) hd hrest
  | .obj [] =>
      rw [render]
      exact hword.avoids_cons (by simp) (hword.avoids_cons (by simp) (hword.avoids_cons hc htext))
  | .obj ((key, value) :: members) =>
      simp only [strings, memberStrings, List.mem_cons, List.mem_append] at hstrings
      obtain ⟨d, rest, hd, hrest, hshape⟩ := hword.renderMembers_shape members
        (fun s hs => hstrings s (Or.inr (Or.inr hs))) hc htext
      simp only [render, spaced_ascii, spaced_keySeparator, List.cons_append, List.append_assoc,
        List.nil_append]
      rw [hshape]
      refine hword.avoids_cons (by simp) (hword.avoids_renderString (hstrings key (Or.inl rfl)) ?_)
      refine hword.avoids_cons (by simp) (hword.avoids_cons (by simp) ?_)
      exact hword.avoids_render_append value (fun s hs => hstrings s (Or.inr (Or.inl hs))) hd hrest
theorem IsWord.renderItems_shape (hword : IsWord f word) (items : List Json)
    (hstrings : ∀ s ∈ itemStrings items, Avoids word ((escape true s.toList).map f))
    {c : Char} (hc : c ∈ ['"', '[', ']', '{', '}', ',', ':', ' ']) {text : List Char}
    (htext : Avoids word (text.map f)) :
    ∃ d rest, d ∈ ['"', '[', ']', '{', '}', ',', ':', ' '] ∧ Avoids word (rest.map f) ∧
      renderItems .spaced items ++ c :: text = d :: rest := by
  match items with
  | [] => exact ⟨']', c :: text, by simp, hword.avoids_cons hc htext, rfl⟩
  | item :: items =>
      simp only [itemStrings, List.mem_append] at hstrings
      obtain ⟨d, rest, hd, hrest, hshape⟩ := hword.renderItems_shape items
        (fun s hs => hstrings s (Or.inr hs)) hc htext
      refine ⟨',', ' ' :: (render .spaced item ++ d :: rest), by simp, ?_, ?_⟩
      · exact hword.avoids_cons (by simp)
          (hword.avoids_render_append item (fun s hs => hstrings s (Or.inl hs)) hd hrest)
      · simp only [renderItems, spaced_itemSeparator, List.cons_append, List.nil_append,
          List.append_assoc, hshape]
theorem IsWord.renderMembers_shape (hword : IsWord f word) (members : List (String × Json))
    (hstrings : ∀ s ∈ memberStrings members, Avoids word ((escape true s.toList).map f))
    {c : Char} (hc : c ∈ ['"', '[', ']', '{', '}', ',', ':', ' ']) {text : List Char}
    (htext : Avoids word (text.map f)) :
    ∃ d rest, d ∈ ['"', '[', ']', '{', '}', ',', ':', ' '] ∧ Avoids word (rest.map f) ∧
      renderMembers .spaced members ++ c :: text = d :: rest := by
  match members with
  | [] => exact ⟨'}', c :: text, by simp, hword.avoids_cons hc htext, rfl⟩
  | (key, value) :: members =>
      simp only [memberStrings, List.mem_cons, List.mem_append] at hstrings
      obtain ⟨d, rest, hd, hrest, hshape⟩ := hword.renderMembers_shape members
        (fun s hs => hstrings s (Or.inr (Or.inr hs))) hc htext
      refine ⟨',', ' ' :: (renderString true key ++
        (':' :: ' ' :: (render .spaced value ++ d :: rest))), by simp, ?_, ?_⟩
      · refine hword.avoids_cons (by simp)
          (hword.avoids_renderString (hstrings key (Or.inl rfl)) ?_)
        exact hword.avoids_cons (by simp) (hword.avoids_cons (by simp)
          (hword.avoids_render_append value (fun s hs => hstrings s (Or.inr (Or.inl hs))) hd hrest))
      · simp only [renderMembers, spaced_itemSeparator, spaced_keySeparator, spaced_ascii,
          List.cons_append, List.nil_append, List.append_assoc, hshape]
end

/-- A word occurs in the spaced text of a value only inside a string of it. -/
theorem IsWord.avoids_render (hword : IsWord f word) (value : Json)
    (hstrings : ∀ s ∈ strings value, Avoids word ((escape true s.toList).map f)) :
    Avoids word ((render .spaced value).map f) := by
  have happend := hword.avoids_render_append value hstrings (c := ' ') (by simp) hword.avoids_nil
  rw [List.map_append] at happend
  exact fun h => happend (h.trans (List.prefix_append _ _).isInfix)

end Words

end Json
end Library
