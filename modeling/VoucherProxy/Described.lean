import VoucherProxy.Completion
import VoucherProxy.Foundation.Layout
import VoucherProxy.Sample

namespace VoucherProxy

/-! What the audit line of a GraphQL request says it was, and what was executed. -/

namespace GraphQl

/-- A document in one field, with the word for its kind. -/
def shape (query kind : String) : String :=
  "\x7b\"bytes\":" ++ toString query.utf8ByteSize ++ ",\"kind\":\"" ++ kind ++ "\"\x7d"

/-- The kind that is written for a document. -/
def Names (query kind : String) : Prop := describe query = shape query kind

instance (query kind : String) : Decidable (Names query kind) :=
  inferInstanceAs (Decidable (_ = _))

theorem shape_injective (query : String) : Function.Injective (shape query) := by
  intro kind other same
  have letters := congrArg String.toList same
  simp only [shape, String.toList_append] at letters
  rw [List.append_cancel_right_eq, List.append_cancel_left_eq] at letters
  exact String.toList_inj.mp letters

theorem names_mutation_iff {query : String} :
    Names query "mutation" ↔ "mutation".toList <+: trimStart query.toList := by
  have written : describe query = shape query
      (if Text.startsWith (String.ofList (trimStart query.toList)) "mutation" then "mutation"
        else "query") := rfl
  have begins : Text.startsWith (String.ofList (trimStart query.toList)) "mutation" = true ↔
      "mutation".toList <+: trimStart query.toList :=
    Text.startsWith_iff.trans (Iff.of_eq (congrArg (_ <+: ·) String.toList_ofList))
  rw [Names, written, (shape_injective query).eq_iff, ← begins]
  split
  next found => exact iff_of_true rfl found
  next missing => exact iff_of_false (by decide) missing

def Document.IsMutation : Document → Prop
  | .query _ => False
  | .mutation _ => True

/-- Either a mutation is executed and the document shows one behind its blanks, or
something else is executed and the document shows none there. -/
inductive Foremost (layout : Layout) (executed : Definition) : Prop
  | mutation (isMutation : executed.kind = .mutation) (blank : layout.StartsBlank)
      (first : layout.first.kind = .mutation)
  | other (notMutation : executed.kind ≠ .mutation)
      (hidden : layout.StartsBlank → layout.first.kind ≠ .mutation)

theorem foremost_iff {layout : Layout} {executed : Definition} :
    Foremost layout executed ↔
      (layout.StartsBlank ∧ layout.first.kind = .mutation ↔ executed.kind = .mutation) := by
  constructor
  · rintro (⟨isMutation, blank, first⟩ | ⟨notMutation, hidden⟩)
    · exact iff_of_true ⟨blank, first⟩ isMutation
    · exact iff_of_false (fun shown => hidden shown.1 shown.2) notMutation
  · intro same
    by_cases isMutation : executed.kind = .mutation
    · rcases same.mpr isMutation with ⟨blank, first⟩
      exact .mutation isMutation blank first
    · exact .other isMutation fun blank first => isMutation (same.mp ⟨blank, first⟩)

variable [Crates] [GraphQlEngine]

/-- The engine accepts a request as a document of a legal layout, and executes the
operation that is selected. -/
structure Accepted (request : GraphQlRequest) (layout : Layout) (document : Document) : Prop where
  prepared : GraphQlEngine.prepare maxDepth maxComplexity request = .ok document
  text : request.query.toList = layout.text
  executed : ∃ operation, layout.selected request.operationName = some operation ∧
    (document.IsMutation ↔ operation.kind = .mutation)

/-- The line of a document names a mutation exactly when one is executed, if and
only if the executed operation is foremost in the document. -/
theorem names_executed_iff {request : GraphQlRequest} {layout : Layout} {document : Document}
    (accepted : Accepted request layout document) :
    (∀ (turns : List Nat) (caller : Caller) (events : History) (response : Response),
      (Routes.graphqlHandler turns caller request).Trace events (.pure response) →
        ∃ front status outcome elapsed, events = front ++
          [⟨.audit (.request caller.name "graphql" "-" (describe request.query) 0 status outcome
            elapsed), ()⟩]) ∧
    ((Names request.query "mutation" ↔ document.IsMutation) ↔
      ∃ executed, layout.selected request.operationName = some executed ∧
        Foremost layout executed) := by
  constructor
  · intro turns caller events response trace
    rcases Concluded.documented_of_trace trace with ⟨started, now, executed, shown, rfl, -⟩
    exact ⟨_, _, _, _, (List.append_assoc _ [_, _] [_]).symm⟩
  · rcases accepted.executed with ⟨operation, selected, kind⟩
    rw [names_mutation_iff, accepted.text, layout.mutation_prefix_iff, kind, selected]
    constructor
    · exact fun same => ⟨operation, rfl, foremost_iff.mpr same⟩
    · rintro ⟨executed, own, foremost⟩
      cases own
      exact foremost_iff.mp foremost

end GraphQl

section

open Sample GraphQl

def revokeText : String :=
  " Revoke \x7b revokeVoucher(siteId: \"main\", voucherId: \"v1\") \x7b id \x7d \x7d"

def revokeDefinition : Definition := ⟨.mutation, some "Revoke", revokeText.toList⟩

def existingDefinition : Definition :=
  ⟨.query, some "Existing", " Existing \x7b sites \x7b id \x7d \x7d ".toList⟩

/-- The mutation behind a line end. -/
def revokeLayout : Layout := ⟨[.blank '\n' (by simp)], revokeDefinition, []⟩

/-- The same behind a query. -/
def existingLayout : Layout := ⟨[], existingDefinition, [revokeDefinition]⟩

def selectingRevoke (layout : Layout) : GraphQlRequest :=
  ⟨String.ofList layout.text, some "Revoke", .null⟩

def revokeDocument : Document := .mutation [("revokeVoucher", .revokeVoucher "main" "v1")]

/-- An engine that knows the two documents. -/
local instance selecting : GraphQlEngine where
  prepare _ _ request :=
    if request.operationName = some "Revoke" ∧ request.query.toList ∈
        [revokeLayout.text, existingLayout.text] then
      .ok revokeDocument
    else .error ["Unknown operation"]
  abandons := true
  sdl := ""
  graphiql := ""

theorem accepted_revoke {layout : Layout}
    (known : layout = revokeLayout ∨ layout = existingLayout) :
    Accepted (selectingRevoke layout) layout revokeDocument where
  prepared := by
    apply if_pos
    rcases known with rfl | rfl <;> exact ⟨rfl, by simp [selectingRevoke]⟩
  text := String.toList_ofList
  executed := by
    refine ⟨revokeDefinition, ?_, iff_of_true trivial rfl⟩
    rcases known with rfl | rfl <;> rfl

theorem names_executed_iff_revoke : Names (selectingRevoke revokeLayout).query "mutation" := by
  have named := (names_executed_iff (accepted_revoke (.inl rfl))).2.mpr
    ⟨revokeDefinition, rfl, .mutation rfl (by simp [Layout.StartsBlank, revokeLayout,
      Ignored.IsBlank]) rfl⟩
  exact named.mpr trivial

/-- A mutation behind a query is executed, and written down as a query. -/
theorem mutation_behind_query :
    Accepted (selectingRevoke existingLayout) existingLayout revokeDocument ∧
      revokeDocument.IsMutation ∧ Names (selectingRevoke existingLayout).query "query" ∧
      ¬ Names (selectingRevoke existingLayout).query "mutation" := by
  have query : Names (selectingRevoke existingLayout).query "query" := by decide +kernel
  refine ⟨accepted_revoke (.inr rfl), trivial, query, fun mutation => ?_⟩
  exact absurd (shape_injective _ (query.symm.trans mutation)) (by decide)

end

end VoucherProxy
