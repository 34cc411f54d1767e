import Classpath.Proofs.Handlers
import Classpath.Proofs.RootModules
import Mathlib.Logic.Relation

/-!
# Opinions count as a set

A registry is a list of factories, and a session notices neither its order nor its
length.  Two of the four questions put to handlers need all of them to agree, the other
two need one.  Either way it matters which opinions there are, not how often they are
given and by whom first; and a handler that answers as a session without handlers would
is on the side that decides nothing, in both kinds of questions.  What is left of a
registry is the set of handlers that it makes and that have an opinion of their own.

The factories may look at the root modules in any way they like.

## Main definitions

* `Handler.Neutral` — a handler without an opinion of its own
* `HandlerSet.SameOpinions` — two sets in which the same handlers have opinions
* `HandlerSet.AnswersLike` — the four answers are the same
* `Registry.IdleChange` — a change of a registry from which nothing follows

## Main statements

* `HandlerSet.SameOpinions.answersLike` — the same opinions give the same answers
* `Session.opinions_count_as_a_set` — changes of a registry that no session notices
-/

namespace Classpath

/-! ## Handlers without an opinion -/

/-- A handler that answers every question as it is answered without handlers. -/
structure Handler.Neutral (h : Handler) : Prop where
  recursive : h.recursive = true
  testsFromDependents : h.testsFromDependents = true
  runtimeOnTestCompile : h.runtimeOnTestCompile = false
  productionOnTests : ∀ d, h.productionOnTests d = false

/-- A handler that leaves every answer at its default. -/
theorem Handler.neutral_default : Handler.neutral.Neutral :=
  ⟨rfl, rfl, rfl, fun _ => rfl⟩

theorem Handler.pointsAtOneOf_nil (d : Dependency) : pointsAtOneOf [] d = false := by
  unfold pointsAtOneOf
  split <;> rfl

/-- A section without settings declares a handler without an opinion. -/
theorem HandlerSection.neutral_toHandler : (HandlerSection.toHandler {}).Neutral :=
  ⟨rfl, rfl, rfl, Handler.pointsAtOneOf_nil⟩

namespace HandlerSet

/-- The same handlers of both sets have opinions of their own. -/
def SameOpinions (hs hs' : HandlerSet) : Prop :=
  ∀ h : Handler, ¬ h.Neutral → (h ∈ hs.handlers ↔ h ∈ hs'.handlers)

/-- Both sets of handlers answer all questions alike. -/
structure AnswersLike (hs hs' : HandlerSet) : Prop where
  recursive : hs.recursive = hs'.recursive
  testsFromDependents : hs.testsFromDependents = hs'.testsFromDependents
  runtimeOnTestCompile : hs.runtimeOnTestCompile = hs'.runtimeOnTestCompile
  productionOnTests : ∀ d, hs.productionOnTests d = hs'.productionOnTests d

namespace SameOpinions

variable {hs hs' hs'' : HandlerSet} {question : Handler → Bool}

theorem refl (hs : HandlerSet) : hs.SameOpinions hs :=
  fun _ _ => Iff.rfl

theorem symm (same : hs.SameOpinions hs') : hs'.SameOpinions hs :=
  fun h opinionated => (same h opinionated).symm

theorem trans (same : hs.SameOpinions hs') (same' : hs'.SameOpinions hs'') :
    hs.SameOpinions hs'' :=
  fun h opinionated => (same h opinionated).trans (same' h opinionated)

/-- If neutral handlers agree, the others decide whether all do. -/
theorem allAgree_of_allAgree (same : hs.SameOpinions hs')
    (neutral : ∀ h : Handler, h.Neutral → question h = true)
    (agreed : hs.allAgree question = true) : hs'.allAgree question = true := by
  rw [allAgree, List.all_eq_true] at agreed ⊢
  intro h member
  by_cases indifferent : h.Neutral
  · exact neutral h indifferent
  · exact agreed h ((same h indifferent).2 member)

/-- If neutral handlers do not agree, the others decide whether one does. -/
theorem anyAgrees_of_anyAgrees (same : hs.SameOpinions hs')
    (neutral : ∀ h : Handler, h.Neutral → question h = false)
    (agreed : hs.anyAgrees question = true) : hs'.anyAgrees question = true := by
  rw [anyAgrees, List.any_eq_true] at agreed ⊢
  obtain ⟨h, member, yes⟩ := agreed
  have opinionated : ¬ h.Neutral := by
    intro indifferent
    rw [neutral h indifferent] at yes
    contradiction
  exact ⟨h, (same h opinionated).1 member, yes⟩

theorem allAgree_congr (same : hs.SameOpinions hs')
    (neutral : ∀ h : Handler, h.Neutral → question h = true) :
    hs.allAgree question = hs'.allAgree question := by
  rw [Bool.eq_iff_iff]
  exact ⟨same.allAgree_of_allAgree neutral, same.symm.allAgree_of_allAgree neutral⟩

theorem anyAgrees_congr (same : hs.SameOpinions hs')
    (neutral : ∀ h : Handler, h.Neutral → question h = false) :
    hs.anyAgrees question = hs'.anyAgrees question := by
  rw [Bool.eq_iff_iff]
  exact ⟨same.anyAgrees_of_anyAgrees neutral, same.symm.anyAgrees_of_anyAgrees neutral⟩

/-- **The same opinions give the same answers.**  Each question is put to the handlers in
the way in which its default decides nothing. -/
theorem answersLike (same : hs.SameOpinions hs') : hs.AnswersLike hs' where
  recursive := same.allAgree_congr fun _ neutral => neutral.recursive
  testsFromDependents := same.allAgree_congr fun _ neutral => neutral.testsFromDependents
  runtimeOnTestCompile := same.anyAgrees_congr fun _ neutral => neutral.runtimeOnTestCompile
  productionOnTests d := same.anyAgrees_congr fun _ neutral => neutral.productionOnTests d

end SameOpinions

end HandlerSet

/-! ## Idle changes of a registry -/

namespace Factory

/-- The factory makes no handler for these root modules. -/
def Declines (f : Factory) (roots : List Module) : Prop :=
  f.create roots = none

/-- The factory makes a handler without an opinion for these root modules. -/
def Abstains (f : Factory) (roots : List Module) : Prop :=
  ∃ h, f.create roots = some h ∧ h.Neutral

/-- If a factory declines or abstains, a handler that it makes has no opinion. -/
theorem neutral_of_create {f : Factory} {roots : List Module} {h : Handler}
    (idle : f.Declines roots ∨ f.Abstains roots) (made : f.create roots = some h) :
    h.Neutral := by
  obtain declines | ⟨h', made', neutral⟩ := idle
  · rw [Declines, made] at declines
    contradiction
  · rw [made] at made'
    rwa [Option.some.inj made']

end Factory

namespace Registry

/-- One change of a registry from which nothing follows for these root modules. -/
inductive IdleChange (roots : List Module) : Registry → Registry → Prop
  /-- The factories are registered in another order. -/
  | reordered {fs gs : List Factory} (perm : fs.Perm gs) : IdleChange roots ⟨fs⟩ ⟨gs⟩
  /-- A factory is registered once more. -/
  | repeated {fs gs : List Factory} {f : Factory} (member : f ∈ fs ++ gs) :
      IdleChange roots ⟨fs ++ gs⟩ ⟨fs ++ f :: gs⟩
  | declining {fs gs : List Factory} {f : Factory} (declines : f.Declines roots) :
      IdleChange roots ⟨fs ++ gs⟩ ⟨fs ++ f :: gs⟩
  | abstaining {fs gs : List Factory} {f : Factory} (abstains : f.Abstains roots) :
      IdleChange roots ⟨fs ++ gs⟩ ⟨fs ++ f :: gs⟩

variable {roots : List Module} {r r' : Registry} {h : Handler}

theorem mem_handlersFor :
    h ∈ (r.handlersFor roots).handlers ↔ ∃ f ∈ r.factories, f.create roots = some h :=
  List.mem_filterMap

/-- A factory that is inserted adds its handler to the others. -/
theorem mem_handlersFor_insert {fs gs : List Factory} {f : Factory} :
    h ∈ (handlersFor ⟨fs ++ f :: gs⟩ roots).handlers ↔
      f.create roots = some h ∨ h ∈ (handlersFor ⟨fs ++ gs⟩ roots).handlers := by
  simp only [mem_handlersFor, List.mem_append, List.mem_cons]
  constructor
  · rintro ⟨g, before | rfl | behind, made⟩
    · exact .inr ⟨g, .inl before, made⟩
    · exact .inl made
    · exact .inr ⟨g, .inr behind, made⟩
  · rintro (made | ⟨g, before | behind, made⟩)
    · exact ⟨f, .inr (.inl rfl), made⟩
    · exact ⟨g, .inl before, made⟩
    · exact ⟨g, .inr (.inr behind), made⟩

/-- A factory that is inserted and brings no opinion that was not there leaves the
opinions as they were. -/
theorem sameOpinions_insert {fs gs : List Factory} {f : Factory}
    (nothingNew : ∀ h : Handler, ¬ h.Neutral → f.create roots = some h →
      h ∈ (handlersFor ⟨fs ++ gs⟩ roots).handlers) :
    (handlersFor ⟨fs ++ gs⟩ roots).SameOpinions (handlersFor ⟨fs ++ f :: gs⟩ roots) := by
  intro h opinionated
  rw [mem_handlersFor_insert]
  exact (or_iff_right_of_imp (nothingNew h opinionated)).symm

/-- An idle change keeps the opinions. -/
theorem IdleChange.sameOpinions (change : IdleChange roots r r') :
    (r.handlersFor roots).SameOpinions (r'.handlersFor roots) := by
  cases change with
  | reordered perm =>
    intro h _
    simp only [mem_handlersFor, perm.mem_iff]
  | repeated member =>
    exact sameOpinions_insert fun h _ made => mem_handlersFor.2 ⟨_, member, made⟩
  | declining declines =>
    exact sameOpinions_insert fun h opinionated made =>
      absurd (Factory.neutral_of_create (.inl declines) made) opinionated
  | abstaining abstains =>
    exact sameOpinions_insert fun h opinionated made =>
      absurd (Factory.neutral_of_create (.inr abstains) made) opinionated

/-- So do any number of them, made or undone. -/
theorem sameOpinions_of_idleChanges (changes : Relation.EqvGen (IdleChange roots) r r') :
    (r.handlersFor roots).SameOpinions (r'.handlersFor roots) := by
  induction changes with
  | rel _ _ change => exact change.sameOpinions
  | refl r => exact .refl _
  | symm _ _ _ same => exact same.symm
  | trans _ _ _ _ _ same same' => exact same.trans same'

/-- A registry whose factories decline or abstain brings no opinion. -/
theorem sameOpinions_empty (idle : ∀ f ∈ r.factories, f.Declines roots ∨ f.Abstains roots) :
    (r.handlersFor roots).SameOpinions (handlersFor {} roots) := by
  intro h opinionated
  refine iff_of_false ?_ List.not_mem_nil
  rw [mem_handlersFor]
  rintro ⟨f, member, made⟩
  exact opinionated (Factory.neutral_of_create (idle f member) made)

end Registry

/-! ## Sessions -/

namespace Session

variable {s : Session} {hs hs' : HandlerSet}

theorem contribution_answersLike (alike : hs.AnswersLike hs') (q : RootQuery) (e : Enumerated) :
    (s.handledBy hs).contribution q e = (s.handledBy hs').contribution q e := by
  unfold contribution
  rw [selection_handledBy alike.testsFromDependents alike.productionOnTests]
  rfl

/-- **A session knows its handlers by their answers.** -/
theorem showsLike_of_answersLike (alike : hs.AnswersLike hs') :
    (s.handledBy hs).ShowsLike (s.handledBy hs') :=
  .of_dependencies (dependencies_handledBy alike.recursive (.inl alike.runtimeOnTestCompile))
    (fun _ _ => rfl) (fun _ _ => rfl) fun q e _ => contribution_answersLike alike q e

theorem reopened_eq_handledBy (s : Session) (r : Registry) (roots : List Module) :
    s.reopened r roots = (s.withRoots roots).handledBy (r.handlersFor roots) := rfl

/-- Registries that bring the same opinions open the same session. -/
theorem showsLike_of_sameOpinions {r r' : Registry} {roots : List Module}
    (same : (r.handlersFor roots).SameOpinions (r'.handlersFor roots)) :
    (s.reopened r roots).ShowsLike (s.reopened r' roots) := by
  rw [reopened_eq_handledBy, reopened_eq_handledBy]
  exact showsLike_of_answersLike same.answersLike

/-- **The opinions of a registry count as a set.**  Take any session, root modules and
registry.  Register the factories in another order, register some of them again, and add,
wherever you like, factories that decline these roots or make handlers without an opinion
of their own: the session lists the same edges with the same expanded flags, and shows the
same modules, libraries and roots, all in the same order.  A registry of nothing but such
factories is as good as none.  Handlers without an opinion are those that leave all answers
at their defaults, and those of sections without settings. -/
theorem opinions_count_as_a_set (s : Session) (roots : List Module) :
    (∀ r r', Relation.EqvGen (Registry.IdleChange roots) r r' →
      (s.reopened r roots).ShowsLike (s.reopened r' roots)) ∧
    (∀ r : Registry, (∀ f ∈ r.factories, f.Declines roots ∨ f.Abstains roots) →
      (s.reopened r roots).ShowsLike (s.reopened {} roots)) ∧
    Handler.neutral.Neutral ∧ (HandlerSection.toHandler {}).Neutral := by
  refine ⟨?_, ?_, Handler.neutral_default, HandlerSection.neutral_toHandler⟩
  · intro r r' changes
    exact showsLike_of_sameOpinions (Registry.sameOpinions_of_idleChanges changes)
  · intro r idle
    exact showsLike_of_sameOpinions (Registry.sameOpinions_empty idle)

/-- Factories that bring no opinion to a session on the layered project: one declines, the
others make handlers that leave all answers as they are. -/
def abstainers : Registry where
  factories := [.always .neutral, HandlerSection.factory "idle" {}, .onlyFor .nonRecursive "web"]

/-- The factories of `opinions` in another order, with the promoting one registered twice
and the abstainers spread among them. -/
def crowd : Registry where
  factories := [.always .neutral,
    HandlerSection.factory "build" { appliesTo := ["util"], includeTestsFromDependents := false },
    .always .promotingRuntime, HandlerSection.factory "idle" {}, .onlyFor .nonRecursive "web",
    .always .promotingRuntime]

/-- On the modules of the layered project the crowd is as good as the registry it was made
of, and the abstainers are as good as none. -/
theorem layered_opinions_count_as_a_set :
    let roots := layered.project.modules
    Relation.EqvGen (Registry.IdleChange roots) opinions crowd ∧
      (layered.reopened opinions roots).ShowsLike (layered.reopened crowd roots) ∧
      (∀ f ∈ abstainers.factories, f.Declines roots ∨ f.Abstains roots) ∧
      (layered.reopened abstainers roots).ShowsLike (layered.reopened {} roots) := by
  intro roots
  let promote : Factory := .always .promotingRuntime
  let web : Factory := .onlyFor .nonRecursive "web"
  let build := HandlerSection.factory "build"
    { appliesTo := ["util"], includeTestsFromDependents := false }
  let plain : Factory := .always .neutral
  let idle := HandlerSection.factory "idle" {}
  have plainAbstains : plain.Abstains roots := ⟨_, rfl, Handler.neutral_default⟩
  have idleAbstains : idle.Abstains roots := ⟨_, rfl, HandlerSection.neutral_toHandler⟩
  have turned : Registry.IdleChange roots opinions ⟨[build, web, promote]⟩ :=
    .reordered (List.reverse_perm [build, web, promote])
  have again : Registry.IdleChange roots ⟨[build] ++ [web, promote]⟩
      ⟨[build] ++ promote :: [web, promote]⟩ := .repeated (by simp)
  have joined : Registry.IdleChange roots ⟨[build, promote] ++ [web, promote]⟩
      ⟨[build, promote] ++ idle :: [web, promote]⟩ := .abstaining idleAbstains
  have led : Registry.IdleChange roots ⟨[] ++ [build, promote, idle, web, promote]⟩ crowd :=
    .abstaining plainAbstains
  have changes : Relation.EqvGen (Registry.IdleChange roots) opinions crowd :=
    .trans _ _ _ (.rel _ _ turned) (.trans _ _ _ (.rel _ _ again)
      (.trans _ _ _ (.rel _ _ joined) (.rel _ _ led)))
  have quiet : ∀ f ∈ abstainers.factories, f.Declines roots ∨ f.Abstains roots := by
    intro f member
    simp only [abstainers, List.mem_cons, List.not_mem_nil, or_false] at member
    rcases member with rfl | rfl | rfl
    · exact .inr plainAbstains
    · exact .inr idleAbstains
    · exact .inl rfl
  obtain ⟨changed, silent, -⟩ := opinions_count_as_a_set layered roots
  exact ⟨changes, changed _ _ changes, quiet, silent _ quiet⟩

end Session

end Classpath
