import Chartwright.Proofs.Chart.Refusal

/-!
# Programs that bind values

Programs that bind and unbind values, fail, and open scopes one inside the other. A `Passage` is
what can be seen of one scope of a run. Main statement: every scope gives back what it binds and
nothing else, whether its body ends or fails, and compiling leaves what is bound as it was.
-/

namespace Chartwright

/-- A program that changes what is bound to the records. -/
inductive LogProgram (ε : Type) where
  | bind (values : Dict String Document)
  | unbind (keys : List String)
  | raise (error : ε)
  | seq (first second : LogProgram ε)
  | scope (values : Dict String Document) (body : LogProgram ε)

namespace LogProgram

variable {ε : Type}

/-- Runs a program up to its end or its first error. -/
def run : LogProgram ε → Logged (Except ε Unit)
  | bind values => fun context => (.ok (), context.bind values, [])
  | unbind keys => fun context => (.ok (), context.unbind keys, [])
  | raise error => pure (.error error)
  | seq first second => do
    match ← first.run with
    | .ok () => second.run
    | .error error => return .error error
  | scope values body => Logged.within values body.run

/-- How a program ends. -/
def result (p : LogProgram ε) (context : LogContext) : Except ε Unit := (p.run context).1

/-- What is bound behind a program. -/
def after (p : LogProgram ε) (context : LogContext) : LogContext := (p.run context).2.1

/-- The keys that a program binds or unbinds outside of the scopes that give them back. -/
def exposed : LogProgram ε → List String
  | bind values => Dict.keys values
  | unbind keys => keys
  | raise _ => []
  | seq first second => first.exposed ++ second.exposed
  | scope values body => body.exposed.filter (· ∉ Dict.keys values)

/-- The way through one scope: its values, and what is bound when it is entered, when its body is
left and behind it. -/
structure Passage where
  values : Dict String Document
  entered : LogContext
  left : LogContext
  after : LogContext

/-- A scope gives back the keys of its values and nothing else. -/
structure Passage.Restored (s : Passage) : Prop where
  given_back : ∀ key ∈ Dict.keys s.values, Dict.get? s.after key = Dict.get? s.entered key
  untouched : ∀ key ∉ Dict.keys s.values, Dict.get? s.after key = Dict.get? s.left key

/-- The scopes that a program goes through in a context. -/
inductive Passes : LogProgram ε → LogContext → Passage → Prop where
  | first {p q context s} :
    Passes p context s →
    Passes (seq p q) context s
  | second {p q context s} :
    p.result context = .ok () →
    Passes q (p.after context) s →
    Passes (seq p q) context s
  | inner {values body context s} :
    Passes body (context.bind values) s →
    Passes (scope values body) context s
  | scope {values body context} :
    Passes (scope values body) context
      ⟨values, context, body.after (context.bind values), (scope values body).after context⟩

variable {p q : LogProgram ε} {values : Dict String Document} {context : LogContext} {key : String}
  {s : Passage} {error : ε}

/-! ## Single steps -/

lemma after_seq_of_ok (ended : p.result context = .ok ()) :
    (seq p q).after context = q.after (p.after context) := by
  have e : (seq p q).after context =
      ((match p.result context with
        | .ok () => q.run
        | .error error => pure (.error error)) (p.after context)).2.1 := rfl
  rw [e, ended]
  rfl

lemma after_seq_of_error (failed : p.result context = .error error) :
    (seq p q).after context = p.after context := by
  have e : (seq p q).after context =
      ((match p.result context with
        | .ok () => q.run
        | .error error => pure (.error error)) (p.after context)).2.1 := rfl
  rw [e, failed]
  rfl

lemma get?_after_scope :
    Dict.get? ((scope values p).after context) key =
      if key ∈ Dict.keys values then Dict.get? context key
      else Dict.get? (p.after (context.bind values)) key :=
  LogContext.get?_restore

lemma restored_scope :
    Passage.Restored
      ⟨values, context, p.after (context.bind values), (scope values p).after context⟩ where
  given_back _ bound := get?_after_scope.trans (if_pos bound)
  untouched _ free := get?_after_scope.trans (if_neg free)

/-! ## Runs -/

/-- Every scope of a run restores what it binds. -/
lemma Passes.restored (h : Passes p context s) : s.Restored := by
  induction h with
  | first _ ih => exact ih
  | second _ _ ih => exact ih
  | inner _ ih => exact ih
  | scope => exact restored_scope

/-- A key that no part of a program exposes is bound behind it as in front of it. -/
theorem get?_after (hidden : key ∉ p.exposed) :
    Dict.get? (p.after context) key = Dict.get? context key := by
  induction p generalizing context with
  | bind values => exact Dict.get?_merge_of_not_mem hidden
  | unbind keys => exact LogContext.get?_unbind_of_not_mem hidden
  | raise error => rfl
  | seq p q ihp ihq =>
    obtain ⟨hp, hq⟩ := not_or.1 (mt List.mem_append.2 hidden)
    cases ended : p.result context with
    | ok _ => rw [after_seq_of_ok ended, ihq hq, ihp hp]
    | error _ => rw [after_seq_of_error ended, ihp hp]
  | scope values body ih =>
    rw [get?_after_scope]
    split
    case isTrue => rfl
    case isFalse free =>
      have hb : key ∉ body.exposed := fun h =>
        hidden (List.mem_filter.2 ⟨h, decide_eq_true free⟩)
      rw [ih hb]
      exact Dict.get?_merge_of_not_mem free

end LogProgram

open LogProgram in
/-- Every scope of every program restores what it binds, however its body is left, which comes to
the same as undoing each binding by its token; and compiling an application, whether or not it
fails, leaves what is bound as it was. -/
theorem scopes_restored :
    (∀ (ε : Type) (p : LogProgram ε) context passage, Passes p context passage → passage.Restored) ∧
    (∀ (ε : Type) (p : LogProgram ε) values context, (Dict.keys values).Nodup →
      let (bound, tokens) := LogContext.bindWithTokens context values
      (scope values p).after context = tokens.foldl LogContext.reset (p.after bound)) ∧
    ∀ input context,
      (compileLogged input context).1 = compile input ∧
        (compileLogged input context).2.1 = context := by
  refine ⟨fun _ _ _ _ => Passes.restored, fun _ p values context distinct => ?_,
    fun input => compileLogged_gives input⟩
  exact congrArg (·.2.1) (Logged.within_eq_tokens distinct p.run context)

namespace LogProgram

/-- A scope in a scope that binds the same key, unbinds it inside and fails. -/
def shadowing : LogProgram Unit :=
  scope [("app", .text "shop")] (seq
    (scope [("app", .text "blog")]
      (seq (unbind ["app"]) (seq (bind [("step", .int 1)]) (raise ()))))
    (bind [("step", .int 2)]))

/-- The inner scope has the key of the outer one back, and keeps what its body bound. -/
theorem shadowing_restored :
    shadowing.result [] = .error () ∧
      Passage.Restored ⟨[("app", .text "blog")], [("app", .text "shop")], [("step", .int 1)],
        [("step", .int 1), ("app", .text "shop")]⟩ :=
  ⟨rfl, scopes_restored.1 Unit shadowing [] _ (.inner (.first .scope))⟩

end LogProgram

end Chartwright
