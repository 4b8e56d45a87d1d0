import Targeting.Proofs.ItemAcceptance
import Targeting.Proofs.Reading

/-!
# Item values as arguments

The grammar of item conditions nests braces and brackets; the splitting of an
argument list counts them. They agree on every value whose quoted strings close
what they open.

## Proof strategy

The delimiters of a text are those of its tokens: marks, and what stands inside
quoted strings. Tokens that are derived hold together and come back to the depth
that they started from, as long as it is inside a brace (values, pairs) or a
bracket (the members of an array); this is an induction on the derivation.
-/
namespace Targeting.Item

open Text Argument

/-! ### Delimiters of tokens -/

namespace Token

/-- The characters of a token that the splitting of an argument list looks at. -/
def delimiters : Token → List Char
  | .openBrace => ['{']
  | .closeBrace => ['}']
  | .openBracket => ['[']
  | .closeBracket => [']']
  | .comma => [',']
  | .equals => []
  | .word _ => []
  | .quoted raw => Argument.delimiters raw

end Token

theorem isDelimiter_of_isWordChar {c : Char} (inside : isWordChar c = true) :
    isDelimiter c = false :=
  isDelimiter_of_class rfl inside

theorem isDelimiter_of_isJoint {c : Char} (joint : isJoint c = true) : isDelimiter c = false :=
  isDelimiter_of_class rfl joint

theorem isDelimiter_of_isGap {c : Char} (gap : isGap c = true) : isDelimiter c = false :=
  isDelimiter_of_class rfl gap

theorem isDelimiter_of_isWord {word : List Char} (isWord : IsWord word) :
    ∀ c ∈ word, isDelimiter c = false := by
  intro c member
  rcases isWordChar_or_isJoint isWord c member with inside | joint
  · exact isDelimiter_of_isWordChar inside
  · exact isDelimiter_of_isJoint joint

theorem delimiters_of_isWord {word : List Char} (isWord : IsWord word) :
    Argument.delimiters word = [] :=
  List.filter_eq_nil_iff.mpr fun c member => by simp [isDelimiter_of_isWord isWord c member]

theorem delimiters_of_mark {c : Char} {mark : Token} (marks : mark? c = some mark)
    (rest : List Char) :
    Argument.delimiters (c :: rest) = mark.delimiters ++ Argument.delimiters rest := by
  unfold mark? at marks
  split at marks <;> cases marks <;> rfl

/-- The delimiters of a text are those of its tokens. -/
theorem delimiters_of_lexes {cs : List Char} {tokens : List Token} (lexed : Lexes cs tokens) :
    Argument.delimiters cs = tokens.flatMap Token.delimiters := by
  induction lexed with
  | nil => rfl
  | gap gap _ ih => rw [delimiters_cons_of_plain (isDelimiter_of_isGap gap), ih]
  | mark marks _ ih => rw [delimiters_of_mark marks, ih, List.flatMap_cons]
  | word longest _ ih =>
    rw [delimiters_append, delimiters_of_isWord longest.isWord, ih, List.flatMap_cons]
    rfl
  | quoted _ _ ih =>
    rw [delimiters_cons_of_plain rfl, delimiters_append, delimiters_cons_of_plain rfl, ih,
      List.flatMap_cons]
    rfl

/-! ### Walks over tokens -/

/-- The tokens lead from one depth to another, and no comma of theirs stands at a level place. -/
structure Leads (tokens : List Token) (start finish : Depth) : Prop where
  holds : Holds start (tokens.flatMap Token.delimiters)
  arrives : start.after (tokens.flatMap Token.delimiters) = finish

theorem Leads.append {first second : List Token} {start middle finish : Depth}
    (here : Leads first start middle) (there : Leads second middle finish) :
    Leads (first ++ second) start finish := by
  constructor
  · rw [List.flatMap_append, holds_append, here.arrives]
    exact ⟨here.holds, there.holds⟩
  · rw [List.flatMap_append, Depth.after_append, here.arrives, there.arrives]

/-- The text closes no brace that it has not opened, and leaves nothing open. -/
structure Closed (text : List Char) : Prop where
  braces : ∀ before after, text = before ++ after → 0 ≤ (({} : Depth).after before).braces
  balanced : ({} : Depth).after text = {}

theorem holds_of_closed {text : List Char} (closed : Closed text) {d : Depth} (inside : 0 < d.braces) :
    Holds d text := by
  apply holds_of_never_level
  intro before after parts
  have opened := closed.braces before after parts
  have depth := Depth.after_braces d before
  rw [Bool.eq_false_iff]
  intro level
  -- To be level again, the text would have to close the brace that it stands in.
  rw [(Depth.isLevel_iff _).mp level] at depth
  simp only at depth
  omega

/-- Every quoted string among the tokens closes what it opens. -/
def StringsClosed (tokens : List Token) : Prop := ∀ raw, Token.quoted raw ∈ tokens → Closed raw

/-- Inside a brace. -/
def InBrace (d : Depth) : Prop := 0 < d.braces ∧ 0 ≤ d.brackets

/-- Inside a bracket. -/
def InBracket (d : Depth) : Prop := 0 ≤ d.braces ∧ 0 < d.brackets

/-! ### Marks -/

theorem leads_mark {mark : Token} {c : Char} (spelled : mark.delimiters = [c]) (other : c ≠ ',')
    (d : Depth) : Leads [mark] d (d.step c) := by
  constructor
  · rw [List.flatMap_singleton, spelled, holds_cons]
    exact ⟨fun separates => other separates.1, holds_nil _⟩
  · rw [List.flatMap_singleton, spelled]
    rfl

theorem leads_comma {d : Depth} (deep : d.isLevel = false) : Leads [.comma] d d := by
  constructor
  · change Holds d [',']
    rw [holds_cons]
    exact ⟨by simp [deep], holds_nil _⟩
  · rfl

theorem leads_plain {token : Token} (plain : token.delimiters = []) (d : Depth) :
    Leads [token] d d := by
  constructor
  · rw [List.flatMap_singleton, plain]
    exact holds_nil d
  · rw [List.flatMap_singleton, plain]
    rfl

theorem leads_quoted {raw : List Char} (closed : Closed raw) {d : Depth} (inside : 0 < d.braces) :
    Leads [.quoted raw] d d := by
  constructor
  · rw [List.flatMap_singleton]
    exact (holds_delimiters d raw).mpr (holds_of_closed closed inside)
  · rw [List.flatMap_singleton]
    exact (after_delimiters d raw).trans (Depth.after_of_balanced closed.balanced d)

theorem not_level_of_inBrace {d : Depth} (inside : InBrace d) : d.isLevel = false := by
  have deep := inside.1
  rw [Bool.eq_false_iff]
  intro level
  rw [(Depth.isLevel_iff d).mp level] at deep
  exact absurd deep (by decide)

theorem not_level_of_inBracket {d : Depth} (inside : InBracket d) : d.isLevel = false := by
  have deep := inside.2
  rw [Bool.eq_false_iff]
  intro level
  rw [(Depth.isLevel_iff d).mp level] at deep
  exact absurd deep (by decide)

/-! ### Productions -/

/-- Outside everything, or deeper. -/
def Within (d : Depth) : Prop := 0 ≤ d.braces ∧ 0 ≤ d.brackets

/-- Where the tokens of a reading stand. -/
def Reading.Inside : Reading → Depth → Prop
  | .value _ | .pairs _ => InBrace
  | .objects _ => InBracket
  | .object _ | .array _ | .start _ => Within

section Productions

variable {d : Depth} {tokens : List Token}

theorem within_of_inBrace (inside : InBrace d) : Within d := ⟨Int.le_of_lt inside.1, inside.2⟩

theorem within_of_inBracket (inside : InBracket d) : Within d := ⟨inside.1, Int.le_of_lt inside.2⟩

theorem inBrace_step (within : Within d) : InBrace (d.step '{') :=
  ⟨Int.lt_add_one_of_le within.1, within.2⟩

theorem inBracket_step (within : Within d) : InBracket (d.step '[') :=
  ⟨within.1, Int.lt_add_one_of_le within.2⟩

theorem leads_nil (d : Depth) : Leads [] d d := ⟨holds_nil d, rfl⟩

theorem leads_braced (leads : Leads tokens (d.step '{') (d.step '{')) :
    Leads (.openBrace :: (tokens ++ [.closeBrace])) d d := by
  have opens : Leads [.openBrace] d (d.step '{') := leads_mark rfl (by decide) d
  have closes : Leads [.closeBrace] (d.step '{') ((d.step '{').step '}') :=
    leads_mark rfl (by decide) (d.step '{')
  have back : (d.step '{').step '}' = d := by simp [Depth.step]
  rw [back] at closes
  exact opens.append (leads.append closes)

theorem leads_bracketed (leads : Leads tokens (d.step '[') (d.step '[')) :
    Leads (.openBracket :: (tokens ++ [.closeBracket])) d d := by
  have opens : Leads [.openBracket] d (d.step '[') := leads_mark rfl (by decide) d
  have closes : Leads [.closeBracket] (d.step '[') ((d.step '[').step ']') :=
    leads_mark rfl (by decide) (d.step '[')
  have back : (d.step '[').step ']' = d := by simp [Depth.step]
  rw [back] at closes
  exact opens.append (leads.append closes)

theorem leads_pair {keyToken : Token} {key : String} (named : key? keyToken = some key)
    (closed : StringsClosed (keyToken :: .equals :: tokens)) (inside : InBrace d)
    (value : Leads tokens d d) : Leads (keyToken :: .equals :: tokens) d d := by
  have key : Leads [keyToken] d d := by
    cases keyToken with
    | word text => exact leads_plain rfl d
    | quoted raw => exact leads_quoted (closed raw (by simp)) inside.1
    | _ => cases named
  have equals : Leads [.equals] d d := leads_plain rfl d
  exact key.append (equals.append value)

end Productions

/-- Tokens that are derived come back to the depth where they begin. -/
theorem leads_of_derives {reading : Reading} {tokens : List Token} (derived : Derives reading tokens)
    (closed : StringsClosed tokens) {d : Depth} (inside : reading.Inside d) : Leads tokens d d := by
  induction derived generalizing d with
  | word text => exact leads_plain rfl d
  | quoted raw => exact leads_quoted (closed raw (by simp)) inside.1
  | inner _ object => exact object closed (within_of_inBrace inside)
  | list _ array => exact array closed (within_of_inBrace inside)
  | @pair _ _ _ tokens named _ value =>
    have bound : StringsClosed tokens := fun raw member => closed raw (by simp [member])
    exact leads_pair named closed inside (value bound inside)
  | @pairs _ _ _ _ tokens others named _ _ value rest =>
    have bound : StringsClosed tokens := fun raw member => closed raw (by simp [member])
    have later : StringsClosed others := fun raw member => closed raw (by simp [member])
    have comma : Leads [.comma] d d := leads_comma (not_level_of_inBrace inside)
    exact leads_pair named closed inside
      ((value bound inside).append (comma.append (rest later inside)))
  | blank => exact leads_braced (leads_nil _)
  | @object _ tokens _ pairs =>
    have inner : StringsClosed tokens := fun raw member => closed raw (by simp [member])
    exact leads_braced (pairs inner (inBrace_step inside))
  | single _ object => exact object closed (within_of_inBracket inside)
  | @objects _ _ tokens others _ _ object behind =>
    have first : StringsClosed tokens := fun raw member => closed raw (by simp [member])
    have later : StringsClosed others := fun raw member => closed raw (by simp [member])
    have comma : Leads [.comma] d d := leads_comma (not_level_of_inBracket inside)
    exact (object first (within_of_inBracket inside)).append (comma.append (behind later inside))
  | empty => exact leads_bracketed (leads_nil _)
  | @array _ tokens _ members =>
    have inner : StringsClosed tokens := fun raw member => closed raw (by simp [member])
    exact leads_bracketed (members inner (inBracket_step inside))
  | alone _ object => exact object closed inside
  | several _ array => exact array closed inside

/-! ### Accepted values -/

/-- The quoted strings of a value, as they are written. -/
def strings (value : List Char) : List (List Char) :=
  ((tokens? (trim value)).getD []).filterMap fun
    | .quoted raw => some raw
    | _ => none

variable {value : List Char} {found : List ItemCondition}

/-- An accepted value is accepted without the blanks around it. -/
theorem conditions_trim (accepted : outcome (conditions value) = .ok found) :
    outcome (conditions (trim value)) = .ok found := by
  obtain ⟨objects, spelled⟩ := exists_spells accepted
  rw [conditions_of_spells spelled] at accepted
  rwa [conditions_of_spells (by rwa [trim_trim])]

/-- An accepted value is whole if every string in it closes what it opens. -/
theorem isWhole_of_closed (accepted : outcome (conditions value) = .ok found)
    (closed : ∀ raw ∈ strings value, Closed raw) : IsWhole value := by
  obtain ⟨objects, tokens, lexed, derived⟩ := exists_spells accepted
  have inside : StringsClosed tokens := by
    intro raw member
    apply closed
    rw [strings, tokens?_eq_some_iff.mpr lexed]
    exact List.mem_filterMap.mpr ⟨.quoted raw, member, rfl⟩
  have walk := leads_of_derives derived inside (d := {}) ⟨by decide, by decide⟩
  -- Neither the blanks around the value nor its gaps and words are delimiters.
  have same : delimiters value = tokens.flatMap Token.delimiters := by
    rw [← delimiters_trim, delimiters_of_lexes lexed]
  constructor
  · rw [← holds_delimiters, same]
    exact walk.holds
  · rw [← after_delimiters, same]
    exact walk.arrives

/-- The argument that asks for items. -/
def argument (value : List Char) : List Char := "hasitem".toList ++ '=' :: value

theorem isWhole_argument : IsWhole (argument value) ↔ IsWhole value := by
  have plain : delimiters "hasitem".toList = [] := by decide +kernel
  exact isWhole_congr (delimiters_assignment plain value)

theorem trim_argument_ne_nil : trim (argument value) ≠ [] :=
  trim_assignment_ne_nil "hasitem".toList value

theorem ofToken?_argument (accepted : outcome (conditions value) = .ok found) :
    Constraint.ofToken? (trim (argument value)) = some (.items found) := by
  have unequal : '=' ∉ "hasitem".toList := by decide +kernel
  have parts : splitAssignment (trim (argument value)) = ("hasitem".toList, trim value) :=
    splitAssignment_trim unequal value
  have known : Key.ofText? (String.ofList "hasitem".toList) = some .items := by decide +kernel
  have read : outcome (Constraint.ofArgument "hasitem".toList (trim value)) = .ok (.items found) := by
    rw [Constraint.ofArgument]
    simp only [known, Constraint.read, outcome_bind, conditions_trim accepted]
    rfl
  rw [Constraint.ofToken?, parts]
  simp only [read]
  rfl

end Targeting.Item

namespace Targeting

open Argument Text

/-- An accepted item value makes one token among level arguments exactly if it is whole, and then its
conditions stand between those of the arguments before and after it, which take effect as they would
without it. It is whole if every string in it closes what it opens. -/
theorem Query.items_between (value : List Char) (found : List ItemCondition)
    (accepted : outcome (Item.conditions value) = .ok found) :
    ((∀ before after, (({} : Depth).after before).isLevel = true →
        split (before ++ ',' :: (Item.argument value ++ ',' :: after)) =
          split before ++ trim (Item.argument value) :: split after) ↔ IsWhole value) ∧
      (IsWhole value → ∀ before after selector, (({} : Depth).after before).isLevel = true →
        let earlier := (Query.read before selector).value.items
        let later := (Query.read after selector).value.items
        (Query.read (before ++ ',' :: after) selector).value.items = earlier ++ later ∧
          (Query.read (before ++ ',' :: (Item.argument value ++ ',' :: after)) selector).value =
            (Query.read (before ++ ',' :: after) selector).value.withItems
              (earlier ++ found ++ later)) ∧
      ((∀ raw ∈ Item.strings value, Item.Closed raw) → IsWhole value) := by
  refine ⟨?_, ?_, Item.isWhole_of_closed accepted⟩
  · rw [← Item.isWhole_argument, isWhole_iff_split Item.trim_argument_ne_nil]
  · intro whole before after selector level earlier later
    have stays := (isWhole_iff_split Item.trim_argument_ne_nil).mp (Item.isWhole_argument.mpr whole)
      before after level
    have constraints : Query.constraints (before ++ ',' :: (Item.argument value ++ ',' :: after)) =
        Query.constraints before ++ .items found :: Query.constraints after := by
      rw [Query.constraints, stays, List.filterMap_append,
        List.filterMap_cons_some (Item.ofToken?_argument accepted)]
      rfl
    have joined := constraints_append_comma level after
    constructor
    · rw [items_read, joined, List.flatMap_append, ← items_read before selector,
        ← items_read after selector]
    · rw [value_read, value_read, constraints, joined, List.foldl_append, List.foldl_append,
        List.foldl_cons]
      generalize reached : (Query.constraints before).foldl Query.add {} = q
      change (Query.constraints after).foldl Query.add (q.withItems (q.items ++ found)) = _
      rw [foldl_add_withItems, ← items_read after selector, ← reached, ← value_read before selector]

theorem Query.items_between_of_apple :
    let value := "\x7bitem=apple\x7d".toList
    let apple : ItemCondition := { item := some "apple" }
    outcome (Item.conditions value) = .ok [apple] ∧
      (Query.read ("tag=a".toList ++ ',' :: (Item.argument value ++ ',' :: "tag=b".toList)) "").value =
        (Query.read ("tag=a".toList ++ ',' :: "tag=b".toList) "").value.withItems [apple] := by
  intro value apple
  have accepted : outcome (Item.conditions value) = .ok [apple] := by decide +kernel
  have strings : Item.strings value = [] := by decide +kernel
  have row := Query.items_between value [apple] accepted
  have whole : IsWhole value := row.2.2 (by simp [strings])
  have placed := (row.2.1 whole "tag=a".toList "tag=b".toList "" (by decide +kernel)).2
  have earlier : (Query.read "tag=a".toList "").value.items = [] := by decide +kernel
  have later : (Query.read "tag=b".toList "").value.items = [] := by decide +kernel
  rw [earlier, later] at placed
  exact ⟨accepted, placed⟩

/-- A string that opens a brace takes the rest of the argument list with it: neither the item
condition nor the tag after it is read. -/
theorem Query.not_items_between : ¬ ∀ value found before after,
    outcome (Item.conditions value) = .ok found →
      (({} : Depth).after before).isLevel = true → (({} : Depth).after after).isLevel = true →
        (Query.read (before ++ ',' :: (Item.argument value ++ ',' :: after)) "").value =
          (Query.read (before ++ ',' :: after) "").value.withItems
            ((Query.read before "").value.items ++ found ++ (Query.read after "").value.items) := by
  intro always
  have accepted : outcome (Item.conditions "\x7bitem=\"\x7b\"\x7d".toList) =
    .ok [{ item := some "\x7b" }] := by decide +kernel
  have claimed := congrArg Query.tags (always _ _ "tag=a".toList "tag=b".toList accepted
    (by decide +kernel) (by decide +kernel))
  exact absurd claimed (by decide +kernel)

end Targeting
