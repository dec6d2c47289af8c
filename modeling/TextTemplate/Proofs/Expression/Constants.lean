import TextTemplate.Proofs.Expression.Printing
import TextTemplate.Proofs.Value.Stripped

/-!
# Constants in expressions

A constant may be written in place, and then its filters are applied while the template is read; or it
may be bound to a name, and then they are applied while it is rendered. `Constants` says which names are
bound to which constants at a place, and `Expr.Inlined` that an expression is another one with the value
of a constant and its filters in place.
-/

namespace TextTemplate

open TextTemplate.Text Literal

/-! ## Literals are data -/

namespace Literal

theorem Members.forall_mem {α : Type} {member : List Char → α → Prop} {P : α → Prop}
    (holds : ∀ {text a}, member text a → P a) {cs : List Char} {as : List α} {comma : Bool}
    (h : Members member cs as comma) : ∀ a ∈ as, P a := by
  induction h with
  | none blank => exact List.forall_mem_nil _
  | last _ here _ => exact List.forall_mem_singleton.mpr (holds here)
  | more _ here _ _ ih => exact List.forall_mem_cons.mpr ⟨holds here, ih⟩

theorem isData_of_number {cs rest : List Char} {v : Value} (h : number cs = some (v, rest)) :
    v.IsData := by
  unfold number at h
  dsimp only at h
  split at h
  · cases h
    exact .integer _
  · obtain ⟨x, -, same⟩ := Option.map_eq_some_iff.mp h
    cases same
    exact .float x

theorem isData_of_constant {word : String} {v : Value} (h : constant? word = some v) : v.IsData := by
  unfold constant? at h
  split at h <;> cases h <;> constructor

theorem isData_of_sequenceValue {close : Option Char} {items : List Value} {comma : Bool} {v : Value}
    (h : sequenceValue close (items, comma) = some v) (data : ∀ item ∈ items, item.IsData) :
    v.IsData := by
  unfold sequenceValue at h
  split at h
  · next single =>
      cases single
      cases h
      exact data v List.mem_cons_self
  · split at h <;> cases h
    exact .list (List.forall_mem_nil _)
  · next same =>
      cases same
      cases h
      exact .list data

theorem Atom.isData {text : List Char} {v : Value} (h : Atom text v) : v.IsData := by
  cases h with
  | string _ _ => exact .string _
  | number _ reads => exact isData_of_number reads
  | constant means => exact isData_of_constant means

theorem Bracketed.isData {item : List Char → Value → Prop}
    (data : ∀ {text v}, item text v → v.IsData) {text : List Char} {v : Value}
    (h : Bracketed item text v) : v.IsData := by
  cases h with
  | list members => exact .list (members.forall_mem (P := Value.IsData) data)
  | tuple members hv => exact isData_of_sequenceValue hv (members.forall_mem (P := Value.IsData) data)
  | dict members =>
      have values := members.forall_mem (P := fun e => e.2.IsData) fun entry => by
        cases entry with
        | mk _ _ _ _ hvalue => exact data hvalue
      exact .map fun e he => values e (NameMap.mem_ofEntries he)

theorem Written.isData {depth : Nat} {text : List Char} {v : Value} (h : Written depth text v) :
    v.IsData := by
  induction depth generalizing text v with
  | zero => exact Atom.isData h
  | succ depth ih => exact h.elim Atom.isData (Bracketed.isData ih)

theorem isData_of_parseChars {cs : List Char} {v : Value} (h : parseChars cs = some v) : v.IsData := by
  obtain ⟨items, comma, members, hv⟩ := parseChars_eq_some.mp h
  exact isData_of_sequenceValue hv (members.forall_mem (P := Value.IsData) Written.isData)

end Literal

theorem Value.IsData.ne_callable {v : Value} (h : v.IsData) (identity : Identity) (f : Function) :
    v ≠ .callable identity f := by
  rintro rfl
  cases h

/-! ## Filters -/

/-- What filters come to depends on the text around them only as far as an error quotes it. -/
theorem applyFilters_cases (calls : List FilterCall) (v : Value) :
    (∃ w, ∀ raw, applyFilters raw calls v = .ok w) ∨
      (∃ name reason, ∀ raw, applyFilters raw calls v = .error (.filterFailed name raw reason)) ∨
      ∀ raw, applyFilters raw calls v = .error .aborted := by
  induction calls generalizing v with
  | nil => exact .inl ⟨v, fun _ => rfl⟩
  | cons call rest ih =>
      simp only [applyFilters, List.foldlM_cons]
      cases call.filter.apply v call.arguments with
      | ok w => exact ih w
      | error failure =>
          cases failure with
          | reason text => exact .inr (.inl ⟨call.name, text, fun _ => rfl⟩)
          | aborted => exact .inr (.inr fun _ => rfl)

/-- An expression as an error quotes it. -/
def quotedExpr (head : List Char) (calls : List CallText) : String :=
  String.ofList (trim (exprText head calls))

/-- A variable with filters, as it is written. -/
theorem parseExpr_filtered {filters : NameMap Filter} {calls : List CallText} {uses : List FilterCall}
    (h : List.Forall₂ (Uses filters) calls uses) {path : List Char} (plain : isPlainPath path = true)
    (other : parseChars path = none) :
    parseExpr filters (exprText path calls) = .ok (.reference
      { raw := quotedExpr path calls, path := String.ofList path, arguments := [], filters := uses }) := by
  have name : isPlainPath (CallText.mk false path []).name = true := plain
  have read := parseExpr_path h name other .nil
  have text : (CallText.mk false path []).print = path := by simp [CallText.print]
  rwa [text] at read

/-- A literal with filters is read as their value, or it is not read because of one of them. -/
theorem parseExpr_literal_cases {filters : NameMap Filter} {calls : List CallText}
    {uses : List FilterCall} (h : List.Forall₂ (Uses filters) calls uses) {text : List Char} {v : Value}
    (hv : parseChars text = some v) :
    (∃ w, parseExpr filters (exprText text calls) = .ok (.literal w)) ∨
      (∃ name reason, parseExpr filters (exprText text calls) =
        .error (.filterFailed name (quotedExpr text calls) reason)) ∨
      parseExpr filters (exprText text calls) = .error .aborted := by
  rw [parseExpr_literal h hv]
  rcases applyFilters_cases uses v with ⟨w, fits⟩ | ⟨name, reason, fails⟩ | breaks
  · exact .inl ⟨w, by rw [fits]; rfl⟩
  · exact .inr (.inl ⟨name, reason, by rw [fails]; rfl⟩)
  · exact .inr (.inr (by rw [breaks]; rfl))

/-! ## Constants -/

/-- The names that are bound to constants. -/
abbrev Constants := String → Option Value

namespace Constants

def nothing : Constants := fun _ => none

/-- Inside of a binding of a name, to a constant or to something else. -/
def bind (k : Constants) (name : String) (value : Option Value) : Constants :=
  fun other => if other = name then value else k other

/-- Inside of bindings that may be to anything. -/
def hide (k : Constants) (names : List String) : Constants :=
  fun other => if other ∈ names then none else k other

end Constants

/-- The value of an expression if it follows from the constants. -/
def Expr.constant? (k : Constants) : Expr → Option Value
  | .literal v => some v
  | .reference r =>
    match segmentsOf '.' r.path with
    | [] => none
    | name :: rest =>
      (k name).bind fun v =>
        match v.follow rest with
        | .callable .. => none
        | v => (applyFilters r.raw r.filters v).toOption

/-- The second expression is the first one or a constant in its place. -/
def Expr.Inlined (k : Constants) (e e' : Expr) : Prop :=
  e' = e ∨ ∃ w, e.constant? k = some w ∧ e' = .literal w

inductive Condition.Inlined (k : Constants) : Condition → Condition → Prop
  | plain (negated : Bool) {left left' : Expr} (hleft : left.Inlined k left') :
      Condition.Inlined k ⟨negated, left, none⟩ ⟨negated, left', none⟩
  | compared (negated : Bool) (op : Operator) {left left' right right' : Expr}
      (hleft : left.Inlined k left') (hright : right.Inlined k right') :
      Condition.Inlined k ⟨negated, left, some (op, right)⟩ ⟨negated, left', some (op, right')⟩

def Test.Inlined (k : Constants) (test test' : Test) : Prop :=
  List.Forall₂ (List.Forall₂ (Condition.Inlined k)) test.groups test'.groups

inductive PrintBody.Inlined (k : Constants) : PrintBody → PrintBody → Prop
  | chain {options options' : List Expr} (h : List.Forall₂ (Expr.Inlined k) options options') :
      PrintBody.Inlined k (.chain options) (.chain options')
  | choice {test test' : Test} {yes yes' no no' : Expr} (htest : test.Inlined k test')
      (hyes : yes.Inlined k yes') (hno : no.Inlined k no') :
      PrintBody.Inlined k (.choice test yes no) (.choice test' yes' no')

section

variable {k : Constants}

theorem Expr.Inlined.refl (e : Expr) : e.Inlined k e := .inl rfl

theorem Condition.Inlined.refl (condition : Condition) : condition.Inlined k condition := by
  obtain ⟨negated, left, _ | ⟨op, right⟩⟩ := condition
  · exact .plain negated (.refl left)
  · exact .compared negated op (.refl left) (.refl right)

theorem Test.Inlined.refl (test : Test) : test.Inlined k test :=
  List.forall₂_same.mpr fun _ _ => List.forall₂_same.mpr fun condition _ => .refl condition

theorem PrintBody.Inlined.refl (body : PrintBody) : body.Inlined k body := by
  cases body with
  | chain options => exact .chain (List.forall₂_same.mpr fun e _ => .refl e)
  | choice test yes no => exact .choice (.refl test) (.refl yes) (.refl no)

end

/-! ## What is read -/

theorem segments_of_not_mem {mark : Char} {cs : List Char} (h : mark ∉ cs) :
    segments mark cs = [cs] := by
  induction cs with
  | nil => rfl
  | cons c cs ih =>
      obtain ⟨first, rest⟩ := List.ne_and_not_mem_of_not_mem_cons h
      rw [segments, if_neg first.symm, ih rest]

theorem segments_plainIdent {name : List Char} (h : isPlainIdent name = true) :
    segments '.' name = [name] := by
  refine segments_of_not_mem fun mem => ?_
  cases name with
  | nil => cases h
  | cons c rest =>
      obtain ⟨start, others⟩ := Bool.and_eq_true_iff.mp h
      rcases List.mem_cons.mp mem with rfl | inside
      · cases start
      · cases List.all_eq_true.mp others '.' inside

/-- Where a name is bound to the value of a literal, the literal with filters may be put in place of the
name with the same filters, if it can be read. -/
theorem inlined_of_parseExpr {filters : NameMap Filter} {calls : List CallText}
    {uses : List FilterCall} (h : List.Forall₂ (Uses filters) calls uses) {text name : List Char}
    {v : Value} (hv : parseChars text = some v) (plain : isPlainIdent name = true)
    (other : parseChars name = none) {k : Constants} (bound : k (String.ofList name) = some v)
    {e e' : Expr} (named : parseExpr filters (exprText name calls) = .ok e)
    (literal : parseExpr filters (exprText text calls) = .ok e') : e.Inlined k e' := by
  have path : isPlainPath name = true := by
    rw [isPlainPath, segments_plainIdent plain]
    simp [plain]
  rw [parseExpr_filtered h path other] at named
  rw [parseExpr_literal h hv] at literal
  cases named
  refine .inr ?_
  have single : segmentsOf '.' (String.ofList name) = [String.ofList name] := by
    rw [segmentsOf, String.toList_ofList, segments_plainIdent plain]
    rfl
  have closed := (isData_of_parseChars hv).ne_callable
  rcases applyFilters_cases uses v with ⟨w, fits⟩ | ⟨filter, reason, fails⟩ | breaks
  · rw [fits] at literal
    cases literal
    refine ⟨w, ?_, rfl⟩
    simp only [Expr.constant?, single, bound, Option.bind_some, Value.follow]
    cases v with
    | callable identity f => exact absurd rfl (closed identity f)
    | _ => rw [fits]; rfl
  · rw [fails] at literal
    cases literal
  · rw [breaks] at literal
    cases literal

end TextTemplate
