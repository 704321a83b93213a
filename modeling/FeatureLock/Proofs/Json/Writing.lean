import FeatureLock.Json.Writer
import FeatureLock.Proofs.Json.Fields

/-!
# What is written follows the grammar

A string is written by escaping one character after the other, and lists and objects by
putting commas between their parts.  Every text that is written like this is a phrase of
the grammar that denotes what was written, whatever text comes after it.  So what the
readers make of written text is a case of what they make of any text.

`Spelled.escapeChar` is the only place that looks at the classes of characters.

Main statements: `spelled_escape`, `textList_render` and `object_render`.
-/

namespace FeatureLock.Json

/-! ### Strings -/

theorem hexDigit_hexDigit {n : Nat} (h : n < 16) : HexDigit (hexDigit n) n := by
  have all : ∀ m : Fin 16, "0123456789abcdef".toList[m.val]? = some (hexDigit m) := by decide
  exact .lower (all ⟨n, h⟩)

/-- A control character is the one that its two last hexadecimal digits write. -/
theorem code_control {c : Char} (h : c.toNat < 0x20) (rest : List Char) :
    Code c.toNat ('0' :: '0' :: hexDigit (c.toNat / 16) :: hexDigit (c.toNat % 16) :: rest)
      rest := by
  have zero : HexDigit '0' 0 := .lower rfl
  have high : c.toNat / 16 < 16 := by omega
  have low : c.toNat % 16 < 16 := by omega
  have code := Code.digits zero zero (hexDigit_hexDigit high) (hexDigit_hexDigit low) rest
  have value : ((0 * 16 + 0) * 16 + c.toNat / 16) * 16 + c.toNat % 16 = c.toNat := by omega
  rwa [value] at code

/-- **An escaped character spells itself.** -/
theorem Spelled.escapeChar {s cs rest : List Char} (spelled : Spelled s cs rest) (c : Char) :
    Spelled (c :: s) (Json.escapeChar c ++ cs) rest := by
  unfold Json.escapeChar
  iterate 7
    split
    · next h =>
      subst h
      exact .short (escape_iff.mpr rfl) spelled
  split
  · next h => exact .code (code_control h cs) spelled
  · next quote slash _ _ _ _ _ printable =>
    exact .plain quote slash (Nat.not_lt.mp printable) spelled

/-- **The escaped characters of a string spell it**, with the closing quote behind them. -/
theorem spelled_escape (s rest : List Char) : Spelled s (escape s ++ '"' :: rest) rest := by
  induction s with
  | nil => exact .close rest
  | cons c s ih =>
    have split : escape (c :: s) ++ '"' :: rest =
        Json.escapeChar c ++ (escape s ++ '"' :: rest) := by
      rw [escape, List.flatMap_cons, List.append_assoc, escape]
    rw [split]
    exact ih.escapeChar c

theorem quote_append (s : String) (rest : List Char) :
    quote s ++ rest = '"' :: (escape s.toList ++ '"' :: rest) := by
  simp [quote]

/-! ### Lists of strings -/

theorem textItems_render (s : String) (ss : List String) (rest : List Char) :
    TextItems (s :: ss) (renderItems ((s :: ss).map .text) ++ ']' :: rest) rest := by
  induction ss generalizing s with
  | nil =>
    have item := TextItems.last (.none _) (spelled_escape s.toList (']' :: rest)) (.none _)
    rw [← quote_append, String.ofList_toList] at item
    exact item
  | cons t ts ih =>
    have item := TextItems.more (.none _)
      (spelled_escape s.toList (',' :: (renderItems ((t :: ts).map .text) ++ ']' :: rest)))
      (.none _) (ih t)
    rw [← quote_append, String.ofList_toList] at item
    simp only [List.map_cons, renderItems, render, List.append_assoc, List.cons_append] at item ⊢
    exact item

/-- **A list of strings is written as a list of these strings.** -/
theorem textList_render (ss : List String) (rest : List Char) :
    TextList ss (render (.list (ss.map .text)) ++ rest) rest := by
  have shape : render (.list (ss.map .text)) ++ rest =
      '[' :: (renderItems (ss.map .text) ++ ']' :: rest) := by simp [render]
  rw [shape]
  cases ss with
  | nil => exact .empty (.none _)
  | cons s ss => exact .items (textItems_render s ss rest)

/-! ### Objects -/

theorem Shape.Admits.holds_render {shape : Shape} {v : Value} (admits : shape.Admits v)
    (rest : List Char) : Holds v (render v ++ rest) rest := by
  have text : ∀ s : String, Holds (.text s) (render (.text s) ++ rest) rest := fun s => by
    have holds := Holds.text (spelled_escape s.toList rest)
    rwa [← quote_append, String.ofList_toList] at holds
  cases admits with
  | int _ _ _ _ => exact .int _ rest
  | bool b =>
    cases b with
    | true => exact .wordTrue rest
    | false => exact .wordFalse rest
  | text s | someText s => exact text s
  | texts ss => exact .texts (textList_render ss rest)
  | null => exact .wordNull rest

/-- A member is written as a member. -/
theorem member_render {names : List String} {shape : Shape} {e : String × Value}
    (known : e.1 ∈ names) (admits : shape.Admits e.2) (rest : List Char) :
    Member names [e] (quote e.1 ++ ':' :: (render e.2 ++ rest)) rest := by
  have label := Label.name (.none _)
    (spelled_escape e.1.toList (':' :: (render e.2 ++ rest))) (.none _) (.none _)
  have named : String.ofList e.1.toList ∈ names := by rwa [String.ofList_toList]
  have member := Member.known label named (admits.holds_render rest)
  rwa [← quote_append, String.ofList_toList] at member

theorem members_render (names : List String) (e : String × Value) (es : Entries)
    (known : ∀ x ∈ e :: es, x.1 ∈ names ∧ ∃ shape : Shape, shape.Admits x.2) (rest : List Char) :
    Members names (e :: es) (renderEntries (e :: es) ++ '}' :: rest) rest := by
  induction es generalizing e with
  | nil =>
    obtain ⟨isKnown, shape, admits⟩ := known e List.mem_cons_self
    have last := Members.last (member_render isKnown admits ('}' :: rest)) (.none _)
    simpa only [renderEntries, List.append_assoc, List.cons_append] using last
  | cons x xs ih =>
    obtain ⟨isKnown, shape, admits⟩ := known e List.mem_cons_self
    have others := ih x fun y mem => known y (List.mem_cons_of_mem _ mem)
    have more := Members.more (member_render isKnown admits _) (.none _) others
    simpa only [renderEntries, List.append_assoc, List.cons_append, List.nil_append] using more

/-- **A table of values that fields admit is written as an object that says them.** -/
theorem object_render {names : List String} {es : Entries}
    (known : ∀ e ∈ es, e.1 ∈ names ∧ ∃ shape : Shape, shape.Admits e.2) (rest : List Char) :
    Object names es (render (.table es) ++ rest) rest := by
  have shape : render (.table es) ++ rest = '{' :: (renderEntries es ++ '}' :: rest) := by
    simp [render]
  rw [shape]
  cases es with
  | nil => exact .empty (.none _)
  | cons e es => exact .members (members_render names e es known rest)

end FeatureLock.Json
