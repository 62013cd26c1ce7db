/-
# The statuses and headers of answers

What an endpoint answers is plain: it has one of six statuses, and marks nothing for other
sites (`isPlain_of_serve`). Beside these there are two statuses more. That of the refusal goes to
what the guard refuses and to nothing else (`status_respond_eq_refused_iff`); and that of a
failure to what there is no answer to (`status_respond_eq_failed_iff`).
-/

import ApiGuide.Proofs.Service.Way

namespace ApiGuide
namespace Service

variable {F : Framework} {s : Service} {r : Request} {response : Response}

/-! ### Endpoints -/

/-- What is taken out of a request first is answered by the framework or the handler. -/
theorem isPlain_of_andThen {α : Type} {taken : Taken α} {handle : α → Outcome}
    (hown : ∀ own, taken = .answered (.ok own) → IsPlain own)
    (hhandle : ∀ a, handle a = .ok response → IsPlain response)
    (h : Framework.andThen taken handle = .ok response) : IsPlain response := by
  cases taken with
  | given a => exact hhandle a h
  | answered own => exact hown response (congrArg Taken.answered h)

/-- **What an endpoint answers is plain.** -/
theorem isPlain_of_serve (hrender : F.RendersValues) (hplain : F.AnswersPlainly) {e : Endpoint}
    (h : F.serve s r e = .ok response) : IsPlain response := by
  have hsend : ∀ {v : Json}, F.send v = .ok response → IsPlain response :=
    Framework.isPlain_of_render hrender (by decide) (List.forall_mem_nil _)
  have hposition : ∀ {help : Position → Json},
      Framework.andThen (F.position r) (fun p => F.send (help p)) = .ok response →
        IsPlain response :=
    isPlain_of_andThen (fun _ => hplain.position) fun _ => hsend
  cases e with
  | health =>
    simp only [Framework.serve] at h
    split at h
    · exact hsend h
    · cases h
  | info | capabilities => exact hsend h
  | classNamed name =>
    simp only [Framework.serve] at h
    split at h
    · exact hsend h
    · exact Framework.isPlain_of_render hrender (by decide) (List.forall_mem_nil _) h
  | signature => exact isPlain_of_andThen (fun _ => hplain.signature) (fun _ => hsend) h
  | completion | signatureHelp | hover => exact hposition h

/-! ### Answers -/

/-- The statuses of answers. -/
def statuses : List Nat := 401 :: ownStatuses

/-- **An answer is the refusal, or has one of six other statuses.** -/
theorem refused_or_own_of_answer (hrender : F.RendersValues) (hpreflight : F.AnswersPreflights)
    (hplain : F.AnswersPlainly) (h : F.answer s r = .ok response) :
    (F.Refuses s.settings r ∧ response.status = 401) ∨ response.status ∈ ownStatuses := by
  have hpreflights : [200, 400] ⊆ ownStatuses := by decide
  generalize houtcome : F.answer s r = outcome at h
  cases houtcome ▸ Framework.way_answer F s r with
  | unaddressed => cases h
  | refused hrefuses => exact Or.inl ⟨hrefuses, (hrender.kept h).1⟩
  | crossed _ hcrossing =>
    obtain rfl := Except.ok.inj h
    exact Or.inr (hpreflights (hpreflight.status hcrossing))
  | answered _ _ hroute =>
    obtain ⟨own, rfl, rfl⟩ := exists_of_map_eq_ok h
    exact Or.inr (hplain.route hroute).status
  | served _ _ =>
    obtain ⟨served, hserve, rfl⟩ := exists_of_map_eq_ok h
    exact Or.inr (isPlain_of_serve hrender hplain hserve).status

/-- **An answer has one of seven statuses.** -/
theorem status_of_answer (hrender : F.RendersValues) (hpreflight : F.AnswersPreflights)
    (hplain : F.AnswersPlainly) (h : F.answer s r = .ok response) :
    response.status ∈ statuses := by
  rcases refused_or_own_of_answer hrender hpreflight hplain h with ⟨-, hrefused⟩ | hown
  · rw [hrefused]
    exact List.mem_cons_self
  · exact List.mem_cons_of_mem _ hown

/-! ### Responses -/

/-- **A request fails** where there is no answer to it. -/
theorem status_respond_eq_failed_iff (hrender : F.RendersValues)
    (hpreflight : F.AnswersPreflights) (hplain : F.AnswersPlainly) :
    (F.respond s r).status = 500 ↔ Fails (F.answer s r) := by
  unfold Framework.respond
  cases hanswer : F.answer s r with
  | error fault => exact iff_of_true hplain.failed.1 ⟨fault, rfl⟩
  | ok response =>
    refine iff_of_false (fun h => ?_) not_fails_ok
    have hstatus := status_of_answer hrender hpreflight hplain hanswer
    rw [show response.status = 500 from h] at hstatus
    exact absurd hstatus (by decide)

/-- **The status of the refusal goes to what the guard refuses**, and to nothing else. -/
theorem status_respond_eq_refused_iff (hrender : F.RendersValues)
    (hpreflight : F.AnswersPreflights) (hplain : F.AnswersPlainly) :
    (F.respond s r).status = 401 ↔ F.Refuses s.settings r := by
  constructor
  · intro h
    unfold Framework.respond at h
    cases hanswer : F.answer s r with
    | error fault =>
      simp only [hanswer, hplain.failed.1] at h
      exact absurd h (by decide)
    | ok response =>
      rw [hanswer] at h
      rcases refused_or_own_of_answer hrender hpreflight hplain hanswer with ⟨hrefuses, -⟩ | hown
      · exact hrefuses
      · rw [show response.status = 401 from h] at hown
        exact absurd hown (by decide)
  · intro h
    obtain ⟨response, hrefusal⟩ := Framework.exists_refusal hrender
    unfold Framework.respond
    rw [Framework.answer_of_refuses h, hrefusal]
    exact (hrender.kept hrefusal).1

end Service
end ApiGuide
