import TinyC.Proofs.Numeral
import TinyC.Report.Style

/-!
# Segments on a terminal

A terminal shows the characters that it reads and obeys the codes between them.  A
code is in force until the code `0`, with which the terminal returns to plain text.
Segments with colour show the same characters as segments without, each in the
style of its segment, and leave no code in force.

## Strategy

What a terminal reads is split into characters and codes (`items`), and what it
shows is found from these with the codes in force as the state (`display`).  One
segment starts in plain text and ends in plain text, so segments after each other
are shown independently.
-/

namespace TinyC

namespace Terminal

/-! ## Reading a text -/

/-- What a terminal finds in a text: characters to show, and codes by their parameters. -/
inductive Item
  | character (c : Char)
  | code (parameter : String)
  deriving DecidableEq, Repr

/-- The character of an item, if it is not a code. -/
def Item.character? : Item → Option Char
  | .character c => some c
  | .code _ => none

/-- Whether a character can stand in the parameter of a code. -/
def isParameter (c : Char) : Bool := c.isDigit || c == ';'

/-- The parameter of the code at the beginning of a text, and the text after the code. -/
def code? : List Char → Option (List Char × List Char)
  | '\x1b' :: '[' :: rest =>
      match rest.dropWhile isParameter with
      | 'm' :: after => some (rest.takeWhile isParameter, after)
      | _ => none
  | _ => none

theorem length_lt_of_code? {text parameter after : List Char}
    (hcode : code? text = some (parameter, after)) : after.length < text.length := by
  unfold code? at hcode
  split at hcode
  · rename_i rest
    split at hcode
    · rename_i hrest
      have hle := (List.dropWhile_sublist isParameter (l := rest)).length_le
      rw [hrest, List.length_cons] at hle
      obtain ⟨-, rfl⟩ := Prod.mk.inj (Option.some.inj hcode)
      simp only [List.length_cons]
      omega
    · cases hcode
  · cases hcode

/-- The characters and codes of a text, in order. -/
def items (text : List Char) : List Item :=
  match text with
  | [] => []
  | c :: rest =>
      match _hcode : code? (c :: rest) with
      | some (parameter, after) => .code (String.ofList parameter) :: items after
      | none => .character c :: items rest
termination_by text.length
decreasing_by
  · exact length_lt_of_code? _hcode
  · exact Nat.lt_succ_self _

/-- A text without its codes. -/
def withoutCodes (text : String) : String :=
  String.ofList ((items text.toList).filterMap Item.character?)

/-- Whether a text has no character with which a code could begin. -/
def IsClear (text : String) : Prop := '\x1b' ∉ text.toList

instance (text : String) : Decidable (IsClear text) := inferInstanceAs (Decidable (_ ∉ _))

theorem code?_eq_none {c : Char} (hc : c ≠ '\x1b') (rest : List Char) :
    code? (c :: rest) = none := by
  unfold code?
  split
  · exact absurd (List.cons.inj ‹_›).1 hc
  · rfl

theorem items_cons {c : Char} (hc : c ≠ '\x1b') (rest : List Char) :
    items (c :: rest) = .character c :: items rest := by
  rw [items]
  split
  · rename_i hcode
    rw [code?_eq_none hc] at hcode
    cases hcode
  · rfl

/-- A text without the beginning of a code is read as its characters. -/
theorem items_append {text : List Char} (hclear : '\x1b' ∉ text) (rest : List Char) :
    items (text ++ rest) = text.map .character ++ items rest := by
  induction text with
  | nil => rfl
  | cons c text ih =>
      obtain ⟨hc, htext⟩ := not_or.1 (mt List.mem_cons.2 hclear)
      rw [List.cons_append, items_cons (Ne.symm hc), ih htext, List.map_cons, List.cons_append]

/-- A code is read as a code, whatever comes after it. -/
theorem items_code {parameter : String} (hparameter : ∀ c ∈ parameter.toList, isParameter c = true)
    (rest : List Char) :
    items ((Style.code parameter).toList ++ rest) = .code parameter :: items rest := by
  have htext : (Style.code parameter).toList ++ rest =
      '\x1b' :: '[' :: (parameter.toList ++ 'm' :: rest) := by
    simp [Style.code]
  have hcode : code? ('\x1b' :: '[' :: (parameter.toList ++ 'm' :: rest)) =
      some (parameter.toList, rest) := by
    have hend : isParameter 'm' = false := by decide
    simp only [code?, List.dropWhile_append_of_pos hparameter, List.takeWhile_append_of_pos hparameter,
      List.dropWhile_cons, List.takeWhile_cons, hend, Bool.false_eq_true, if_false, List.append_nil]
  rw [htext, items]
  split
  · rename_i hfound
    rw [hcode] at hfound
    obtain ⟨rfl, rfl⟩ := Prod.mk.inj (Option.some.inj hfound)
    rw [String.ofList_toList]
  · rename_i hfound
    rw [hcode] at hfound
    cases hfound

/-- Codes after each other are read one by one. -/
theorem items_codes {parameters : List String}
    (hparameters : ∀ parameter ∈ parameters, ∀ c ∈ parameter.toList, isParameter c = true)
    (rest : List Char) :
    items ((String.join (parameters.map Style.code)).toList ++ rest) =
      parameters.map .code ++ items rest := by
  induction parameters with
  | nil => rfl
  | cons parameter parameters ih =>
      obtain ⟨hfirst, hothers⟩ := List.forall_mem_cons.1 hparameters
      rw [List.map_cons, String.join_cons, String.toList_append, List.append_assoc,
        items_code hfirst, ih hothers, List.map_cons, List.cons_append]

/-! ## Showing a text -/

/-- The codes in force after one more: none after the code `0`. -/
def afterCode (pen : List String) (parameter : String) : List String :=
  if parameter = "0" ∨ parameter = "" then [] else pen ++ [parameter]

/-- The characters that are shown, each with the codes in force. -/
def display : (pen : List String) → List Item → List (Char × List String)
  | _, [] => []
  | pen, .character c :: rest => (c, pen) :: display pen rest
  | pen, .code parameter :: rest => display (afterCode pen parameter) rest

/-- The codes in force after all items. -/
def penAfter : (pen : List String) → List Item → List String
  | pen, [] => pen
  | pen, .character _ :: rest => penAfter pen rest
  | pen, .code parameter :: rest => penAfter (afterCode pen parameter) rest

/-- The characters of a text that a terminal shows, each with the codes in force. -/
def shown (text : String) : List (Char × List String) := display [] (items text.toList)

/-- The codes that are left in force after a text. -/
def left (text : String) : List String := penAfter [] (items text.toList)

variable {pen : List String}

theorem display_append (pen : List String) (first second : List Item) :
    display pen (first ++ second) = display pen first ++ display (penAfter pen first) second := by
  induction first generalizing pen with
  | nil => rfl
  | cons item rest ih =>
      cases item with
      | character c => exact congrArg ((c, pen) :: ·) (ih pen)
      | code parameter => exact ih _

theorem penAfter_append (pen : List String) (first second : List Item) :
    penAfter pen (first ++ second) = penAfter (penAfter pen first) second := by
  induction first generalizing pen with
  | nil => rfl
  | cons item rest ih => cases item <;> exact ih _

theorem display_characters (pen : List String) (text : List Char) :
    display pen (text.map .character) = text.map fun c => (c, pen) := by
  induction text with
  | nil => rfl
  | cons c rest ih => exact congrArg ((c, pen) :: ·) ih

theorem penAfter_characters (pen : List String) (text : List Char) :
    penAfter pen (text.map .character) = pen := by
  induction text with
  | nil => rfl
  | cons c rest ih => exact ih

/-- Nothing is shown of codes. -/
theorem display_codes (pen : List String) (parameters : List String) :
    display pen (parameters.map .code) = [] := by
  induction parameters generalizing pen with
  | nil => rfl
  | cons parameter rest ih => exact ih _

/-- The parameter of a code that sets something, and does not return to plain text. -/
structure IsSetting (parameter : String) : Prop where
  ne : ¬(parameter = "0" ∨ parameter = "")
  isParameter : ∀ c ∈ parameter.toList, isParameter c = true

/-- Codes that set something are in force in addition to those before them. -/
theorem penAfter_codes {parameters : List String}
    (hparameters : ∀ parameter ∈ parameters, IsSetting parameter) (pen : List String) :
    penAfter pen (parameters.map .code) = pen ++ parameters := by
  induction parameters generalizing pen with
  | nil => exact (List.append_nil pen).symm
  | cons parameter rest ih =>
      obtain ⟨hfirst, hrest⟩ := List.forall_mem_cons.1 hparameters
      have hadded : afterCode pen parameter = pen ++ [parameter] := if_neg hfirst.ne
      rw [List.map_cons, penAfter, hadded, ih hrest, List.append_assoc, List.singleton_append]

/-- What is shown of a text is the text without its codes. -/
theorem map_fst_display (pen : List String) (found : List Item) :
    (display pen found).map Prod.fst = found.filterMap Item.character? := by
  induction found generalizing pen with
  | nil => rfl
  | cons item rest ih =>
      cases item with
      | character c => exact congrArg (c :: ·) (ih pen)
      | code parameter => exact ih _

theorem withoutCodes_eq (text : String) :
    withoutCodes text = String.ofList ((shown text).map Prod.fst) := by
  rw [withoutCodes, shown, map_fst_display]

end Terminal

/-! ## Styles -/

theorem Numeral.isParameter_ofNat (value : Nat) :
    ∀ c ∈ (ofNat value).toList, Terminal.isParameter c = true := by
  intro c hc
  rw [ofNat, String.toList_ofList] at hc
  rw [Terminal.isParameter, isDigit_of_mem_digits value c hc, Bool.true_or]

/-- The parameter of a colour begins with the layer, and is made of digits and semicolons. -/
theorem Color.exists_parameter_eq (color : Color) (layer : String) (intense : Bool) :
    ∃ rest, color.parameter layer intense = layer ++ rest ∧
      ∀ c ∈ rest.toList, Terminal.isParameter c = true := by
  have hnumeral := Numeral.isParameter_ofNat
  have hpalette : ∀ c ∈ "8;5;".toList, Terminal.isParameter c = true :=
    List.all_eq_true.1 (by decide)
  have hmixed : ∀ c ∈ "8;2;".toList, Terminal.isParameter c = true :=
    List.all_eq_true.1 (by decide)
  have hbetween : ∀ c ∈ ";".toList, Terminal.isParameter c = true :=
    List.all_eq_true.1 (by decide)
  cases color with
  | named hue =>
      cases intense with
      | true =>
          refine ⟨"8;5;" ++ Numeral.ofNat (8 + hue.number), ?_, ?_⟩
          · simp [parameter, String.append_assoc]
          · rw [String.toList_append]
            exact List.forall_mem_append.2 ⟨hpalette, hnumeral _⟩
      | false => exact ⟨Numeral.ofNat hue.number, rfl, hnumeral _⟩
  | palette index =>
      refine ⟨"8;5;" ++ Numeral.ofNat index.toNat, ?_, ?_⟩
      · simp [parameter, String.append_assoc]
      · rw [String.toList_append]
        exact List.forall_mem_append.2 ⟨hpalette, hnumeral _⟩
  | mixed red green blue =>
      refine ⟨"8;2;" ++ (Numeral.ofNat red.toNat ++ (";" ++ (Numeral.ofNat green.toNat ++ (";" ++
        Numeral.ofNat blue.toNat)))), ?_, ?_⟩
      · simp [parameter, String.append_assoc]
      · simp only [String.toList_append, List.forall_mem_append]
        exact ⟨hmixed, hnumeral _, hbetween, hnumeral _, hbetween, hnumeral _⟩

theorem Color.isSetting_parameter (color : Color) {layer : String} (hlayer : layer ∈ ["3", "4"])
    (intense : Bool) : Terminal.IsSetting (color.parameter layer intense) := by
  obtain ⟨rest, hparameter, hrest⟩ := color.exists_parameter_eq layer intense
  have hlayers : ∀ layer ∈ ["3", "4"], layer.toList ≠ [] ∧
      layer.toList.all Terminal.isParameter = true ∧ layer.toList.head? ≠ some '0' := by
    decide
  obtain ⟨hnil, hdigits, hzero⟩ := hlayers layer hlayer
  obtain ⟨first, others, hfirst⟩ := List.exists_cons_of_ne_nil hnil
  rw [hfirst, List.head?_cons] at hzero
  rw [hparameter]
  refine ⟨?_, ?_⟩
  · -- The first character of the layer would be that of the other text.
    rintro (heq | heq)
    · have htext := congrArg String.toList heq
      rw [String.toList_append, hfirst, List.cons_append] at htext
      exact hzero (congrArg some (List.cons.inj htext).1)
    · have htext := congrArg String.toList heq
      rw [String.toList_append, hfirst, List.cons_append] at htext
      cases htext
  · rw [String.toList_append]
    exact List.forall_mem_append.2 ⟨List.all_eq_true.1 hdigits, hrest⟩

namespace Style

/-- The parameters of the codes that set a style, and before them that of the code to return to
plain text if the style replaces others. -/
def codes (style : Style) : List String :=
  (if style.replacing then ["0"] else []) ++ style.parameters

theorem set_eq (style : Style) : style.set = String.join (style.codes.map code) := by
  rw [set, codes]
  cases style.replacing with
  | true => simp [reset]
  | false => simp

theorem isParameter_zero : ∀ c ∈ "0".toList, Terminal.isParameter c = true :=
  List.all_eq_true.1 (by decide)

theorem isSetting_attribute {value : String} (hvalue : value ∈ ["1", "2", "3", "4", "9"]) :
    Terminal.IsSetting value := by
  have hne : ∀ value ∈ ["1", "2", "3", "4", "9"], ¬(value = "0" ∨ value = "") := by decide
  have hparameter : ∀ value ∈ ["1", "2", "3", "4", "9"],
      value.toList.all Terminal.isParameter = true := by decide
  exact ⟨hne value hvalue, List.all_eq_true.1 (hparameter value hvalue)⟩

theorem isSetting_of_mem_parameters {style : Style} :
    ∀ parameter ∈ style.parameters, Terminal.IsSetting parameter := by
  have hattribute : ∀ (condition : Bool), ∀ value ∈ ["1", "2", "3", "4", "9"],
      ∀ parameter ∈ (if condition then [value] else []), Terminal.IsSetting parameter := by
    intro condition value hvalue parameter hparameter
    cases condition with
    | true => exact List.mem_singleton.1 hparameter ▸ isSetting_attribute hvalue
    | false => cases hparameter
  have hcolor : ∀ (color : Option Color), ∀ layer ∈ ["3", "4"],
      ∀ parameter ∈ (color.map (Color.parameter layer style.intense)).toList,
        Terminal.IsSetting parameter := by
    intro color layer hlayer parameter hparameter
    obtain ⟨color, -, rfl⟩ := Option.map_eq_some_iff.1 (Option.mem_toList.1 hparameter)
    exact color.isSetting_parameter hlayer style.intense
  simp only [parameters, List.forall_mem_append]
  exact ⟨⟨⟨⟨⟨⟨hattribute _ "1" (by decide), hattribute _ "2" (by decide)⟩,
    hattribute _ "3" (by decide)⟩, hattribute _ "4" (by decide)⟩, hattribute _ "9" (by decide)⟩,
    hcolor _ "3" (by decide)⟩, hcolor _ "4" (by decide)⟩

/-- A style is set by codes that are read one by one. -/
theorem isParameter_of_mem_codes {style : Style} :
    ∀ parameter ∈ style.codes, ∀ c ∈ parameter.toList, Terminal.isParameter c = true := by
  refine List.forall_mem_append.2 ⟨?_, fun parameter hparameter =>
    (isSetting_of_mem_parameters parameter hparameter).isParameter⟩
  cases style.replacing with
  | true => exact List.forall_mem_singleton.2 isParameter_zero
  | false => exact nofun

/-- In plain text the codes of a style make that style. -/
theorem penAfter_codes (style : Style) :
    Terminal.penAfter [] (style.codes.map .code) = style.parameters := by
  have hparameters := Terminal.penAfter_codes (@isSetting_of_mem_parameters style) []
  rw [codes, List.map_append, Terminal.penAfter_append]
  cases style.replacing <;> exact hparameters

end Style

/-! ## Segments -/

namespace Segment

/-- What a terminal finds in a segment with colour. -/
def items (segment : Segment) : List Terminal.Item :=
  match segment.style with
  | none => segment.text.toList.map .character
  | some style =>
      style.codes.map .code ++ (segment.text.toList.map .character ++ [.code "0"])

/-- The codes that make the style of a segment. -/
def pen (segment : Segment) : List String := (segment.style.map Style.parameters).getD []

/-- The characters of a segment in its style. -/
def ink (segment : Segment) : List (Char × List String) :=
  segment.text.toList.map fun c => (c, segment.pen)

variable {segment : Segment} {segments : List Segment}

theorem items_colored (hclear : Terminal.IsClear segment.text) (rest : List Char) :
    Terminal.items (segment.colored.toList ++ rest) = segment.items ++ Terminal.items rest := by
  obtain ⟨style, text⟩ := segment
  cases style with
  | none => exact Terminal.items_append hclear rest
  | some style =>
      have hreset := Terminal.items_code Style.isParameter_zero rest
      simp only [colored, items, Style.set_eq, Style.reset, String.toList_append, List.append_assoc]
      rw [Terminal.items_codes Style.isParameter_of_mem_codes, Terminal.items_append hclear, hreset]
      rfl

/-- A segment that begins in plain text is shown in its style, and ends in plain text. -/
theorem display_items (segment : Segment) :
    Terminal.display [] segment.items = segment.ink ∧ Terminal.penAfter [] segment.items = [] := by
  obtain ⟨style, text⟩ := segment
  cases style with
  | none => exact ⟨Terminal.display_characters [] _, Terminal.penAfter_characters [] _⟩
  | some style =>
      simp only [items, Terminal.display_append, Terminal.penAfter_append, Terminal.display_codes,
        Style.penAfter_codes, Terminal.display_characters, Terminal.penAfter_characters]
      exact ⟨List.append_nil _, rfl⟩

theorem items_write (hclear : ∀ segment ∈ segments, Terminal.IsClear segment.text) :
    Terminal.items (write true segments).toList = segments.flatMap items := by
  induction segments with
  | nil => rw [write, List.map_nil, String.join_nil]; exact Terminal.items.eq_1
  | cons segment rest ih =>
      obtain ⟨hsegment, hrest⟩ := List.forall_mem_cons.1 hclear
      have hwrite : write true (segment :: rest) = segment.colored ++ write true rest := by
        rw [write, List.map_cons, String.join_cons]
        rfl
      rw [hwrite, String.toList_append, items_colored hsegment, ih hrest, List.flatMap_cons]

theorem display_flatMap_items (segments : List Segment) :
    Terminal.display [] (segments.flatMap items) = segments.flatMap ink ∧
      Terminal.penAfter [] (segments.flatMap items) = [] := by
  induction segments with
  | nil => exact ⟨rfl, rfl⟩
  | cons segment rest ih =>
      obtain ⟨hink, hpen⟩ := segment.display_items
      rw [List.flatMap_cons, List.flatMap_cons, Terminal.display_append, Terminal.penAfter_append,
        hink, hpen]
      exact ⟨congrArg (segment.ink ++ ·) ih.1, ih.2⟩

/-- Segments are shown in their styles, one after the other. -/
theorem shown_write (hclear : ∀ segment ∈ segments, Terminal.IsClear segment.text) :
    Terminal.shown (write true segments) = segments.flatMap ink := by
  rw [Terminal.shown, items_write hclear]
  exact (display_flatMap_items segments).1

theorem left_write (hclear : ∀ segment ∈ segments, Terminal.IsClear segment.text) :
    Terminal.left (write true segments) = [] := by
  rw [Terminal.left, items_write hclear]
  exact (display_flatMap_items segments).2

theorem map_fst_flatMap_ink (segments : List Segment) :
    String.ofList ((segments.flatMap ink).map Prod.fst) = write false segments := by
  have hink : ∀ segment : Segment, segment.ink.map Prod.fst = segment.text.toList := fun segment => by
    rw [ink, List.map_map]
    exact List.map_id _
  induction segments with
  | nil => rfl
  | cons segment rest ih =>
      have hwrite : write false (segment :: rest) = segment.text ++ write false rest := by
        rw [write, List.map_cons, String.join_cons]
        rfl
      rw [hwrite, ← ih, List.flatMap_cons, List.map_append, hink, String.ofList_append,
        String.ofList_toList]

/-- Without their codes segments are what they are without colour. -/
theorem withoutCodes_write (hclear : ∀ segment ∈ segments, Terminal.IsClear segment.text) :
    Terminal.withoutCodes (write true segments) = write false segments := by
  rw [Terminal.withoutCodes_eq, shown_write hclear, map_fst_flatMap_ink]

end Segment

end TinyC
