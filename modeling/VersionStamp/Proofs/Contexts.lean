/-
# VersionStamp.Proofs.Contexts — contexts tell more of a failure and leave it what it is

A context is added to a failure itself, or to a result that may be one, and then as a text or as
something that makes the text (`Manner`).  All three add the same (`add_eq_mapError`), so that any
number of them, in any mix, come down to adding texts to the failure one after another
(`addEach_eq_mapError`).

What a failure is does not depend on its contexts: they keep its kind, its exit code, its help and
what stands beneath it (`SameCause`).  Failures of input and output and bare messages collect them,
the newest first; every other failure stays as it is, also one that encloses a failure that would
collect them.

Failures enclose each other to any depth.  The last part says how such a failure is told: by what
each layer says, from the outside in, and then by the innermost cause.
-/
import Mathlib.Data.List.Basic
import VersionStamp.Failure

namespace VersionStamp

namespace Failure

variable {failure other third : Failure}

/-! ## What a failure is

Kind, exit code, help and what stands beneath: these four make a failure what it is to whoever
handles it, and its text is how it is told.  `SameCause` says that two failures agree in the
former. -/

/-- The kinds of failure. -/
inductive Kind where
  | commandFailed
  | repositoryNotFound
  | commitNotFound
  | malformedDate
  | invalidReleaseVersion
  | constantNotFound
  | partialWrite
  | io
  | message
  deriving DecidableEq, Repr

/-- The kind of a failure. -/
def kind : Failure → Kind
  | commandFailed _ _ => .commandFailed
  | repositoryNotFound _ => .repositoryNotFound
  | commitNotFound _ => .commitNotFound
  | malformedDate _ => .malformedDate
  | invalidReleaseVersion _ => .invalidReleaseVersion
  | constantNotFound _ _ => .constantNotFound
  | partialWrite _ _ _ => .partialWrite
  | io _ _ => .io
  | message _ _ _ => .message

/-- What stands beneath a failure, the nearest first: the failures that it encloses, and what the
system said. -/
def chain : Failure → List (Failure ⊕ IoError)
  | partialWrite _ _ cause => .inl cause :: cause.chain
  | io cause _ => [.inr cause]
  | _ => []

theorem sources_eq_map_chain (failure : Failure) :
    failure.sources = failure.chain.map (Sum.elim text IoError.message) := by
  induction failure with
  | partialWrite updated stale cause ih => rw [sources, chain, List.map_cons, ih, Sum.elim_inl]
  | _ => rfl

/-- The two failures differ at most in their contexts. -/
structure SameCause (failure other : Failure) : Prop where
  kind : failure.kind = other.kind
  exitCode : failure.exitCode = other.exitCode
  help : failure.help = other.help
  chain : failure.chain = other.chain

theorem SameCause.refl (failure : Failure) : SameCause failure failure := ⟨rfl, rfl, rfl, rfl⟩

theorem SameCause.trans (same : SameCause failure other) (same' : SameCause other third) :
    SameCause failure third where
  kind := same.kind.trans same'.kind
  exitCode := same.exitCode.trans same'.exitCode
  help := same.help.trans same'.help
  chain := same.chain.trans same'.chain

theorem SameCause.sources (same : SameCause failure other) : failure.sources = other.sources := by
  rw [sources_eq_map_chain, same.chain, ← sources_eq_map_chain]

/-! ## Adding contexts to a failure

One context goes in front of the ones that are there, or nowhere.  Any number of them, one after
another, end up in front in reverse order. -/

theorem sameCause_inContext (context : String) (failure : Failure) :
    SameCause (failure.inContext context) failure := by
  cases failure with
  | io cause contexts => exact ⟨rfl, rfl, rfl, rfl⟩
  | message text hint contexts => exact ⟨rfl, rfl, rfl, rfl⟩
  | _ => exact .refl _

theorem inContext_of_kind (not_io : failure.kind ≠ .io) (not_message : failure.kind ≠ .message)
    (context : String) : failure.inContext context = failure := by
  cases failure with
  | io cause contexts => exact absurd rfl not_io
  | message text hint contexts => exact absurd rfl not_message
  | _ => rfl

/-- Adds contexts one after another. -/
def inContexts (contexts : List String) (failure : Failure) : Failure :=
  contexts.foldl (fun failure context => failure.inContext context) failure

theorem inContexts_cons (context : String) (rest : List String) (failure : Failure) :
    inContexts (context :: rest) failure = inContexts rest (failure.inContext context) := rfl

theorem sameCause_inContexts (contexts : List String) (failure : Failure) :
    SameCause (inContexts contexts failure) failure := by
  induction contexts generalizing failure with
  | nil => exact .refl failure
  | cons context rest ih => exact (ih _).trans (sameCause_inContext context failure)

theorem inContexts_of_kind (not_io : failure.kind ≠ .io) (not_message : failure.kind ≠ .message)
    (contexts : List String) : inContexts contexts failure = failure := by
  induction contexts with
  | nil => rfl
  | cons context rest ih => rw [inContexts_cons, inContext_of_kind not_io not_message, ih]

theorem inContexts_io (cause : IoError) (contexts old : List String) :
    inContexts contexts (io cause old) = io cause (contexts.reverse ++ old) := by
  induction contexts generalizing old with
  | nil => rfl
  | cons context rest ih =>
      rw [inContexts_cons, inContext, ih, List.reverse_cons, List.append_assoc,
        List.singleton_append]

theorem inContexts_message (text : String) (hint : Option String) (contexts old : List String) :
    inContexts contexts (message text hint old) = message text hint (contexts.reverse ++ old) := by
  induction contexts generalizing old with
  | nil => rfl
  | cons context rest ih =>
      rw [inContexts_cons, inContext, ih, List.reverse_cons, List.append_assoc,
        List.singleton_append]

theorem text_io {contexts : List String} (some_context : contexts ≠ []) (cause : IoError) :
    (io cause contexts).text = "\n".intercalate contexts ++ ": " ++ cause.message := by
  cases contexts with
  | nil => exact absurd rfl some_context
  | cons context rest => rfl

theorem text_message (text : String) (hint : Option String) (contexts : List String) :
    (message text hint contexts).text = "\n".intercalate (text :: contexts) := rfl

end Failure

/-! ## Adding contexts to a result

The program adds a context to a result, as a text or as a function that makes the text.  A value
passes through unchanged; a failure gets what it would get by itself, so the way does not matter
and results come down to failures. -/

/-- The ways to add a context. -/
inductive Manner where
  /-- To the failure itself. -/
  | direct
  /-- To the result. -/
  | result
  /-- To the result, with a text that is made only for a failure. -/
  | delayed
  deriving DecidableEq, Repr

section

variable {α : Type}

/-- Adds a context to a result in one of the ways. -/
def Manner.add (manner : Manner) (context : String) (outcome : Except Failure α) :
    Except Failure α :=
  match manner, outcome with
  | direct, .ok value => .ok value
  | direct, .error failure => .error (failure.inContext context)
  | result, outcome => inAttempt context outcome
  | delayed, outcome => inAttemptAt (fun _ => context) outcome

/-- Adds contexts one after another, each in its own way. -/
def addEach (contexts : List (Manner × String)) (outcome : Except Failure α) : Except Failure α :=
  contexts.foldl (fun outcome context => context.1.add context.2 outcome) outcome

/-- The way in which a context is added makes no difference. -/
theorem Manner.add_eq_mapError (manner : Manner) (context : String) (outcome : Except Failure α) :
    manner.add context outcome = outcome.mapError fun failure => failure.inContext context := by
  cases manner with
  | direct =>
      cases outcome with
      | ok value => rfl
      | error failure => rfl
  | result => rfl
  | delayed => rfl

theorem addEach_eq_mapError (contexts : List (Manner × String)) (outcome : Except Failure α) :
    addEach contexts outcome =
      outcome.mapError (Failure.inContexts (contexts.map Prod.snd)) := by
  induction contexts generalizing outcome with
  | nil =>
      cases outcome with
      | ok value => rfl
      | error failure => rfl
  | cons context rest ih =>
      rw [addEach, List.foldl_cons, ← addEach, ih, Manner.add_eq_mapError]
      cases outcome with
      | ok value => rfl
      | error failure => rfl

end

namespace Failure

variable {failure : Failure}

/-! ## Failures in layers

Only a write that was left half done encloses another failure.  Unwinding these layers ends at a
cause that encloses nothing (`exists_enclosed`), and text, exit code and chain of the whole are
then given layer by layer. -/

/-- The failure that encloses another one in layers: for each, the file that was written and the one
that could not be, the outermost first. -/
def enclosed (layers : List (String × String)) (inner : Failure) : Failure :=
  layers.foldr (fun layer cause => .partialWrite layer.1 layer.2 cause) inner

/-- Every failure has an innermost cause. -/
theorem exists_enclosed (failure : Failure) :
    ∃ layers inner, failure = enclosed layers inner ∧ inner.kind ≠ .partialWrite := by
  induction failure with
  | partialWrite updated stale cause ih =>
      obtain ⟨layers, inner, rfl, innermost⟩ := ih
      exact ⟨(updated, stale) :: layers, inner, rfl, innermost⟩
  | _ => exact ⟨[], _, rfl, nofun⟩

theorem exitCode_enclosed {layers : List (String × String)} (some_layer : layers ≠ [])
    (inner : Failure) : (enclosed layers inner).exitCode = .system := by
  cases layers with
  | nil => exact absurd rfl some_layer
  | cons layer rest => rfl

theorem text_enclosed (layers : List (String × String)) (inner : Failure) :
    (enclosed layers inner).text =
      String.join (layers.map fun layer => s!"Failed to update {layer.2}: ") ++ inner.text := by
  induction layers with
  | nil => rfl
  | cons layer rest ih =>
      rw [List.map_cons, String.join_cons, String.append_assoc, ← ih]
      rfl

theorem length_chain_enclosed (layers : List (String × String)) (inner : Failure) :
    (enclosed layers inner).chain.length = layers.length + inner.chain.length := by
  induction layers with
  | nil => exact (Nat.zero_add _).symm
  | cons layer rest ih =>
      have one_more : (enclosed (layer :: rest) inner).chain.length =
          (enclosed rest inner).chain.length + 1 := rfl
      rw [one_more, ih, List.length_cons, Nat.add_right_comm]

theorem length_chain_of_innermost (innermost : failure.kind ≠ .partialWrite) :
    failure.chain.length = if failure.kind = .io then 1 else 0 := by
  cases failure with
  | partialWrite updated stale cause => exact absurd rfl innermost
  | _ => rfl

/-! ## What contexts tell

Contexts are added in any mix, and failures enclose each other to any depth.  The theorem puts both
parts together, and the run behind it has one context of each way. -/

/-- Contexts that are added one after another, each in any way, make no difference to a value, and a
failure keeps its kind, exit code, help and causes.  They stand, the newest first, before what the
system said and behind a bare message, and are not told of any other failure.  A failure that
encloses others in layers tells each layer, from the outside in, and then its innermost cause; it
has the exit code 2, and a cause for each layer and one more if the innermost cause is a failure of
input or output. -/
theorem contexts_tell_more {α : Type} (contexts : List (Manner × String)) :
    (∀ value : α, addEach contexts (.ok value) = .ok value) ∧
    (∀ failure, ∃ told, addEach contexts (.error failure : Except Failure α) = .error told ∧
      SameCause told failure ∧ told.sources = failure.sources ∧
      (∀ cause, failure = .io cause [] → told.text =
        if contexts = [] then s!"I/O error: {cause.message}"
        else "\n".intercalate (contexts.map Prod.snd).reverse ++ ": " ++ cause.message) ∧
      (∀ text hint, failure = .message text hint [] →
        told.text = "\n".intercalate (text :: (contexts.map Prod.snd).reverse)) ∧
      (failure.kind ≠ .io → failure.kind ≠ .message → told = failure)) ∧
    ∀ failure, ∃ layers inner, failure = enclosed layers inner ∧ inner.kind ≠ .partialWrite ∧
      failure.text =
        String.join (layers.map fun layer => s!"Failed to update {layer.2}: ") ++ inner.text ∧
      (layers ≠ [] → failure.exitCode.toNat = 2) ∧
      failure.sources.length = layers.length + if inner.kind = .io then 1 else 0 := by
  refine ⟨?_, ?_, ?_⟩
  · intro value
    rw [addEach_eq_mapError]
    rfl
  · intro failure
    have same := sameCause_inContexts (contexts.map Prod.snd) failure
    refine ⟨inContexts (contexts.map Prod.snd) failure, ?_, same, same.sources, ?_, ?_, ?_⟩
    · rw [addEach_eq_mapError]
      rfl
    · rintro cause rfl
      rw [inContexts_io, List.append_nil]
      split_ifs with none_added
      · subst none_added
        rfl
      · exact text_io (by simpa using none_added) cause
    · rintro text hint rfl
      rw [inContexts_message, List.append_nil, text_message]
    · intro not_io not_message
      exact inContexts_of_kind not_io not_message _
  · intro failure
    obtain ⟨layers, inner, rfl, innermost⟩ := exists_enclosed failure
    refine ⟨layers, inner, rfl, innermost, text_enclosed layers inner, ?_, ?_⟩
    · intro some_layer
      rw [exitCode_enclosed some_layer]
      rfl
    · rw [sources_eq_map_chain, List.length_map, length_chain_enclosed,
        length_chain_of_innermost innermost]

/-- Three contexts, each added in another way, are told of a failure of input or output, but not of
the write that it left half done. -/
theorem three_contexts_tell_more :
    let contexts := [(Manner.direct, "reading"), (.result, "rendering"), (.delayed, "updating")]
    let denied : Failure := .io (.system ⟨13⟩) []
    let partial_write : Failure := .partialWrite "c/VERSION.h" "internal/pikchr.y" denied
    (∃ told, addEach contexts (.error denied : Except Failure Unit) = .error told ∧
      told.text = "updating\nrendering\nreading: Permission denied (os error 13)" ∧
      told.exitCode = .system ∧ told.sources = ["Permission denied (os error 13)"]) ∧
    (∃ told, addEach contexts (.error (.message "stop" none []) : Except Failure Unit) =
        .error told ∧ told.text = "stop\nupdating\nrendering\nreading") ∧
    addEach contexts (.error partial_write : Except Failure Unit) = .error partial_write := by
  intro contexts denied partial_write
  obtain ⟨-, adding, -⟩ := @contexts_tell_more Unit contexts
  obtain ⟨told, added, same, sources, of_io, -, -⟩ := adding denied
  obtain ⟨told', added', -, -, -, of_message, -⟩ := adding (.message "stop" none [])
  obtain ⟨told'', added'', -, -, -, -, of_other⟩ := adding partial_write
  have of_io := of_io (.system ⟨13⟩) rfl
  have of_message := of_message "stop" none rfl
  have before : "\n".intercalate ["updating", "rendering", "reading"] ++ ": " ++
      (IoError.system ⟨13⟩).message =
        "updating\nrendering\nreading: Permission denied (os error 13)" := by decide +kernel
  have behind : "\n".intercalate ["stop", "updating", "rendering", "reading"] =
      "stop\nupdating\nrendering\nreading" := by decide +kernel
  refine ⟨⟨told, added, of_io.trans before, same.exitCode, sources⟩,
    ⟨told', added', of_message.trans behind⟩, ?_⟩
  rw [added'', of_other (by decide) (by decide)]

end Failure

end VersionStamp
