import Mathlib
import EntitySchema.Proofs.Compilation.Bindings
import EntitySchema.Proofs.Number.Text
import EntitySchema.Proofs.Schema.Content
import EntitySchema.Proofs.Value.QuotedText
/-!
Text that stays on one line.

Whatever text a model holds, it is quoted before it gets into source text, and a literal stays on its
line. So type expressions, validators and all other generated code have no line breaks.
-/

namespace EntitySchema

/-! ## Quotes and names -/

@[simp] theorem newline_notMem_quotedChars (text : List Char) : '\n' ∉ quotedChars text := by
  intro member
  have staysOnLine := staysOnLine_of_mem_quotedChars member
  exact staysOnLine.2 List.mem_cons_self

@[simp] theorem newline_notMem_quote (text : String) : '\n' ∉ (quote text).toList := by
  rw [toList_quote]
  exact newline_notMem_quotedChars text.toList

theorem newline_notMem_of_isIdentifier {name : String} (identifier : isIdentifier name = true) :
    '\n' ∉ name.toList := by
  intro member
  cases Value.isIdentifierPart_of_isIdentifierText identifier _ member

@[simp] theorem newline_notMem_keyChars (key : String) : '\n' ∉ keyChars key := by
  unfold keyChars
  split
  · next identifier => exact newline_notMem_of_isIdentifier identifier
  · exact newline_notMem_quotedChars _

/-! ## Numbers -/

@[simp] theorem newline_notMem_toDigits (value : Nat) : '\n' ∉ Nat.toDigits 10 value := by
  intro member
  cases isDigit_of_mem_decimalDigits member

@[simp] theorem newline_notMem_numberChars (number : Number) : '\n' ∉ number.chars := by
  intro member
  cases Number.isNumeralPart_of_mem_chars _ member

@[simp] theorem newline_notMem_numberText (number : Number) : '\n' ∉ number.text.toList := by
  simp [Number.text]

/-! ## Type expressions -/

theorem newline_notMem_intercalate {separator : List Char} {texts : List (List Char)}
    (between : '\n' ∉ separator) (each : ∀ text ∈ texts, '\n' ∉ text) :
    '\n' ∉ List.intercalate separator texts := by
  induction texts with
  | nil => simp
  | cons text rest induction =>
      rcases List.forall_mem_cons.mp each with ⟨ofText, ofRest⟩
      cases rest with
      | nil => simpa using ofText
      | cons next rest =>
          rw [List.intercalate_cons_cons]
          simp [ofText, between, induction ofRest]

namespace TypeExpression

theorem newline_notMem_ofLiteral (literal : Literal) : '\n' ∉ ofLiteral literal := by
  cases literal <;> simp [ofLiteral]

theorem newline_notMem_ofArray {element : List Char} (ofElement : '\n' ∉ element) :
    '\n' ∉ ofArray element := by
  unfold ofArray
  split_ifs <;> simp [ofElement]

theorem newline_notMem_ofMember {type : List Char} (property : Property) (ofType : '\n' ∉ type) :
    '\n' ∉ ofMember property type := by
  cases property.optional <;> simp [ofMember, ofType]

theorem newline_notMem_ofMembers {members : List (List Char)}
    (each : ∀ member ∈ members, '\n' ∉ member) : '\n' ∉ ofMembers members := by
  have joined := newline_notMem_intercalate (by simp : '\n' ∉ "; ".toList) each
  unfold ofMembers
  split_ifs
  · simp
  · simpa using joined

theorem newline_notMem_ofVariants {variants : List (List Char)}
    (each : ∀ variant ∈ variants, '\n' ∉ variant) : '\n' ∉ ofVariants variants :=
  newline_notMem_intercalate (by simp) each

theorem newline_notMem_ofTuple {items : List (List Char)}
    (each : ∀ item ∈ items, '\n' ∉ item) : '\n' ∉ ofTuple items := by
  have joined := newline_notMem_intercalate (by simp : '\n' ∉ ", ".toList) each
  simpa [ofTuple] using joined

/-- An expression has no line breaks, whatever the names and literals in it are. -/
theorem newline_notMem_of_walk {graph : Graph} {depth : Nat} {opened : List TypeId} {id : TypeId}
    {expression : List Char} (walked : walk graph depth opened id = .ok expression) :
    '\n' ∉ expression := by
  induction depth generalizing opened id expression with
  | zero => cases walked
  | succ depth induction =>
      have ofElement (element : TypeId)
          (walked : (do return ofArray (← walk graph depth opened element)) = .ok expression) :
          '\n' ∉ expression := by
        rcases bind_eq_ok_iff.mp walked with ⟨text, ofElement, equal⟩
        cases equal
        exact newline_notMem_ofArray (induction ofElement)
      rcases bind_eq_ok_iff.mp walked with ⟨node, _, walked⟩
      cases node with
      | scalar scalar =>
          rcases bind_eq_ok_iff.mp walked with ⟨kind, _, equal⟩
          cases equal
          cases kind <;> simp [ScalarKind.name]
      | array element => exact ofElement element walked
      | record record =>
          cases shape : record.arrayElement? with
          | some element =>
              simp only [shape] at walked
              exact ofElement element walked
          | none =>
              simp only [shape] at walked
              rcases bind_eq_ok_iff.mp walked with ⟨below, _, walked⟩
              rcases bind_eq_ok_iff.mp walked with ⟨properties, _, walked⟩
              rcases bind_eq_ok_iff.mp walked with ⟨members, written, equal⟩
              cases equal
              refine newline_notMem_ofMembers (forall_mem_of_mapM ?_ written)
              intro property member ofProperty
              rcases bind_eq_ok_iff.mp ofProperty with ⟨type, ofType, equal⟩
              cases equal
              exact newline_notMem_ofMember property (induction ofType)
      | enum enum =>
          rcases bind_eq_ok_iff.mp walked with ⟨values, _, equal⟩
          cases equal
          apply newline_notMem_ofVariants
          simp [newline_notMem_ofLiteral]
      | union union =>
          cases empty : union.variants.isEmpty with
          | true => simp [empty] at walked
          | false =>
              simp only [empty] at walked
              rcases bind_eq_ok_iff.mp walked with ⟨variants, written, equal⟩
              cases equal
              exact newline_notMem_ofVariants (forall_mem_of_mapM (fun _ _ => induction) written)
      | tuple items =>
          rcases bind_eq_ok_iff.mp walked with ⟨texts, written, equal⟩
          cases equal
          exact newline_notMem_ofTuple (forall_mem_of_mapM (fun _ _ => induction) written)
      | void => cases walked
      | never => cases walked
      | booleanLiteral value =>
          cases walked
          cases value <;> simp [boolText]
      | _ =>
          cases walked
          simp

end TypeExpression

/-! ## Validators -/

theorem newline_notMem_ofTextGuard {test : String} :
    '\n' ∉ (Check.ofTextGuard test).toList ↔ '\n' ∉ test.toList := by
  unfold Check.ofTextGuard
  simp

theorem newline_notMem_ofNumberGuard {test : String} :
    '\n' ∉ (Check.ofNumberGuard test).toList ↔ '\n' ∉ test.toList := by
  unfold Check.ofNumberGuard
  simp

theorem newline_notMem_guard (check : Check) : '\n' ∉ check.guard.toList := by
  cases check with
  | dateTime kind => cases kind <;> exact newline_notMem_ofTextGuard.mpr (by simp)
  | minLength bound => exact newline_notMem_ofTextGuard.mpr (by simp)
  | maxLength bound => exact newline_notMem_ofTextGuard.mpr (by simp)
  | pattern text pattern => exact newline_notMem_ofTextGuard.mpr (by simp)
  | _ => exact newline_notMem_ofNumberGuard.mpr (by simp)

theorem newline_notMem_clause (property : String) (check : Check) :
    '\n' ∉ (Validator.clause property check).toList := by
  unfold Validator.clause
  simp [newline_notMem_guard]

theorem newline_notMem_validatorSource (validator : Validator) :
    '\n' ∉ validator.source.toList := by
  unfold Validator.source
  simp [newline_notMem_clause]

/-! ## Generated code -/

variable {graph : Graph} {config : Config}

theorem newline_notMem_customType (valid : config.fault? = none) :
    '\n' ∉ config.output.customType.toList :=
  newline_notMem_of_isIdentifier (isIdentifier_of_nameFault? (nameFault?_customType valid))

theorem IsGeneratedCode.newline_notMem {code : String} (valid : config.fault? = none)
    (now : '\n' ∉ config.timestamps.nowSource.toList)
    (generated : IsGeneratedCode graph config code) : '\n' ∉ code.toList := by
  cases generated with
  | now => exact now
  | customType written =>
      simp [customTypeSource, newline_notMem_customType valid,
        TypeExpression.newline_notMem_of_walk written]
  | validator validator => exact newline_notMem_validatorSource validator

theorem newline_notMem_importLine (valid : config.fault? = none) :
    '\n' ∉ (importLine config).toList := by
  simp [importLine, newline_notMem_customType valid]

end EntitySchema
