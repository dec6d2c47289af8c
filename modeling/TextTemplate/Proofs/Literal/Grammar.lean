import TextTemplate.Proofs.Literal.Atom

/-!
# The grammar of literals

Which texts are literals, and of what value, said without a reader: an atom, or members between
brackets with commas and blanks around them. Each level of brackets takes one from the
allowance.
-/

namespace TextTemplate.Literal

open TextTemplate.Text

/-! ## Members between commas -/

/-- Members with commas between them and blanks around them, their values, and whether there is a
comma. A comma may stand behind the last member. -/
inductive Members {α : Type} (member : List Char → α → Prop) : List Char → List α → Bool → Prop
  | none {lead : List Char} (blank : Blanks lead) : Members member lead [] false
  | last {lead text trail : List Char} {a : α} (before : Blanks lead) (here : member text a)
      (behind : Blanks trail) : Members member (lead ++ text ++ trail) [a] false
  | more {lead text gap rest : List Char} {a : α} {as : List α} {comma : Bool} (before : Blanks lead)
      (here : member text a) (behind : Blanks gap) (others : Members member rest as comma) :
      Members member (lead ++ text ++ gap ++ ',' :: rest) (a :: as) true

/-- An entry of a dict: a key, a colon and a value. -/
inductive Entry (item : List Char → Value → Prop) : List Char → String × Value → Prop
  | mk {key gap lead text : List Char} {k v : Value} {name : String} (hkey : item key k)
      (hname : keyText k = some name) (behind : Blanks gap) (before : Blanks lead)
      (hvalue : item text v) : Entry item (key ++ gap ++ ':' :: (lead ++ text)) (name, v)

/-- A list, a tuple or a dict. -/
inductive Bracketed (item : List Char → Value → Prop) : List Char → Value → Prop
  | list {inside : List Char} {items : List Value} {comma : Bool}
      (h : Members item inside items comma) : Bracketed item ('[' :: (inside ++ [']'])) (.list items)
  | tuple {inside : List Char} {items : List Value} {comma : Bool} {v : Value}
      (h : Members item inside items comma) (hv : sequenceValue (some ')') (items, comma) = some v) :
      Bracketed item ('(' :: (inside ++ [')'])) v
  | dict {inside : List Char} {entries : List (String × Value)} {comma : Bool}
      (h : Members (Entry item) inside entries comma) :
      Bracketed item ('\x7b' :: (inside ++ ['\x7d'])) (.map (NameMap.ofEntries entries))

/-- A text that is an item with at most `depth` brackets open at the same time, and its value. -/
def Written : Nat → List Char → Value → Prop
  | 0 => Atom
  | depth + 1 => fun text v => Atom text v ∨ Bracketed (Written depth) text v

theorem Written.of_atom {depth : Nat} {text : List Char} {v : Value} (h : Atom text v) :
    Written depth text v := by
  cases depth with
  | zero => exact h
  | succ depth => exact .inl h

/-- An item that does not start with a bracket has none. -/
theorem Written.atom {depth : Nat} {c : Char} {rest : List Char} {v : Value}
    (other : c ∉ ['[', '(', '\x7b']) (h : Written depth (c :: rest) v) : Atom (c :: rest) v := by
  cases depth with
  | zero => exact h
  | succ depth =>
      rcases h with atom | bracket
      · exact atom
      · generalize whole : c :: rest = text at bracket
        cases bracket <;>
          · cases whole
            exact absurd (by decide) other

/-! ## How an item starts and ends -/

/-- The text starts neither with a blank nor with a sign that separates or closes members. -/
def Opens : List Char → Prop
  | [] => False
  | c :: _ => isBlank c = false ∧ c ∉ marks

theorem Atom.opens {text : List Char} {v : Value} (h : Atom text v) : Opens text := by
  cases h with
  | string hquote text => rcases hquote with rfl | rfl <;> exact ⟨by decide, by decide⟩
  | number start reads => exact filled_of_not_stops (not_stops_of_number reads _ List.mem_cons_self)
  | constant means =>
      cases text with
      | nil => simp [constant?] at means
      | cons c cs => exact filled_of_not_stops (not_stops_of_constant means c List.mem_cons_self)

theorem Bracketed.opens {item : List Char → Value → Prop} {text : List Char} {v : Value}
    (h : Bracketed item text v) : Opens text := by
  cases h <;> exact ⟨by decide, by decide⟩

theorem Written.opens {depth : Nat} {text : List Char} {v : Value} (h : Written depth text v) :
    Opens text := by
  cases depth with
  | zero => exact Atom.opens h
  | succ depth => exact h.elim Atom.opens Bracketed.opens

theorem isBlank_quote {quote : Char} (h : quote = '\'' ∨ quote = '"') : isBlank quote = false := by
  rcases h with rfl | rfl <;> decide

/-- A text between two characters ends with the second one. -/
theorem endsFilled_between (opening : Char) (inside : List Char) {closing : Char}
    (filled : isBlank closing = false) : EndsFilled (opening :: (inside ++ [closing])) := by
  rw [← List.cons_append]
  exact endsFilled_concat.mpr filled

theorem Atom.endsFilled {text : List Char} {v : Value} (h : Atom text v) : EndsFilled text := by
  cases h with
  | string hquote text => exact endsFilled_between _ _ (isBlank_quote hquote)
  | number start reads =>
      intro c hc
      exact (filled_of_not_stops (not_stops_of_number reads c (List.mem_of_mem_getLast? hc))).1
  | constant means =>
      intro c hc
      exact (filled_of_not_stops (not_stops_of_constant means c (List.mem_of_mem_getLast? hc))).1

theorem Bracketed.endsFilled {item : List Char → Value → Prop} {text : List Char} {v : Value}
    (h : Bracketed item text v) : EndsFilled text := by
  cases h <;> exact endsFilled_between _ _ (by decide)

theorem Written.endsFilled {depth : Nat} {text : List Char} {v : Value} (h : Written depth text v) :
    EndsFilled text := by
  cases depth with
  | zero => exact Atom.endsFilled h
  | succ depth => exact h.elim Atom.endsFilled Bracketed.endsFilled

/-! ## The first member -/

theorem Members.exists_first {α : Type} {member : List Char → α → Prop} {c : Char}
    {cs : List Char} {as : List α} {comma : Bool} (filled : isBlank c = false)
    (h : Members member (c :: cs) as comma) : ∃ text a rest, member text a ∧ c :: cs = text ++ rest ∧
      ∀ d ∈ rest.head?, isBlank d = true ∨ d = ',' := by
  have noLead : ∀ {lead rest : List Char}, Blanks lead → c :: cs = lead ++ rest → lead = [] := by
    intro lead rest blank same
    cases lead with
    | nil => rfl
    | cons d lead =>
        cases same
        rw [(blanks_cons.mp blank).1] at filled
        cases filled
  generalize hwhole : c :: cs = whole at h
  cases h with
  | none blank =>
      rw [noLead blank (hwhole.trans (List.append_nil _).symm)] at hwhole
      cases hwhole
  | @last lead text trail a before here behind =>
      obtain rfl := noLead before (hwhole.trans (List.append_assoc _ _ _))
      exact ⟨text, a, trail, here, rfl, fun d hd => .inl (behind d (List.mem_of_mem_head? hd))⟩
  | @more lead text gap rest a as comma before here behind others =>
      obtain rfl := noLead before
        (show c :: cs = lead ++ (text ++ (gap ++ ',' :: rest)) by rw [hwhole]; simp)
      refine ⟨text, a, gap ++ ',' :: rest, here, by simp, fun d hd => ?_⟩
      cases gap with
      | nil => exact .inr (Option.some.inj hd).symm
      | cons e gap =>
          obtain rfl := Option.some.inj hd
          exact .inl (blanks_cons.mp behind).1

/-! ## Blanks around members -/

section

variable {α : Type} {member : List Char → α → Prop} {cs : List Char} {as : List α} {comma : Bool}

theorem Members.trimStart (opens : ∀ {text a}, member text a → Opens text)
    (h : Members member cs as comma) : Members member (trimStart cs) as comma := by
  have front : ∀ {lead text a}, Blanks lead → member text a → ∀ rest,
      Text.trimStart (lead ++ text ++ rest) = [] ++ text ++ rest := by
    intro lead text a blank here rest
    rw [List.append_assoc, trimStart_blanks_append blank, List.nil_append]
    have first := opens here
    cases text with
    | nil => exact first.elim
    | cons c text => exact trimStart_eq_self (startsFilled_cons.mpr first.1)
  cases h with
  | none blank =>
      rw [trimStart_of_blanks blank]
      exact .none blanks_nil
  | last before here behind =>
      rw [front before here]
      exact .last blanks_nil here behind
  | more before here behind others =>
      rw [List.append_assoc, front before here, ← List.append_assoc]
      exact .more blanks_nil here behind others

theorem Members.trimEnd (filled : ∀ {text a}, member text a → EndsFilled text)
    (opens : ∀ {text a}, member text a → Opens text) (h : Members member cs as comma) :
    Members member (trimEnd cs) as comma := by
  induction h with
  | @none lead blank =>
      have nothing : Text.trimEnd lead = [] := by
        rw [← List.nil_append lead, trimEnd_append_blanks [] blank]
        rfl
      rw [nothing]
      exact .none blanks_nil
  | @last lead text trail a before here behind =>
      have nonempty : text ≠ [] := by
        rintro rfl
        exact opens here
      have last : EndsFilled (lead ++ text) := (endsFilled_append nonempty).mpr (filled here)
      rw [trimEnd_append_blanks _ behind, trimEnd_eq_self last, ← List.append_nil (lead ++ text)]
      exact .last before here blanks_nil
  | more before here behind others ih =>
      rw [trimEnd_append_cons (by decide)]
      exact .more before here behind ih

end

end TextTemplate.Literal
