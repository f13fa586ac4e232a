import TrustAnchor.Proofs.Performance

/-! Which errors come out of a loop that tries again after conflicts. A conflict never does: it is
followed by another call, or else, after the last one that is allowed, it is wrapped. Every other
error comes out as it is, and at once, also one that wraps a conflict. -/

namespace TrustAnchor

/-- Only what the API server itself reports is a conflict. -/
theorem Error.isConflict_iff {e : Error} :
    e.isConflict = true ↔ ∃ answer : ApiError, e = .client (.api answer) ∧ answer.code = 409 := by
  refine ⟨fun h => ?_, ?_⟩
  · match e with
    | .client (.api answer) => exact ⟨answer, rfl, of_decide_eq_true h⟩
  · rintro ⟨answer, rfl, hcode⟩
    exact decide_eq_true hcode

namespace Retry

open Script

variable {α ε : Type} {s : Schedule} {operation : String} {horizon n : Nat} {es : List Exchange}

/-! ## How a loop comes to an error -/

section Tries

variable {again : ε → Bool} {body : Nat → Script (Except ε α)} {trials : List (Trial ε α)}

/-- The attempt has failed, and another one might mend that. -/
def Failed (again : ε → Bool) (t : Trial ε α) : Prop :=
  ∃ e, t.result = .ok (.error e) ∧ again e = true

/-- The error of a loop is that of its last attempt. Either no other attempt would mend it, and then
nothing was asked after that attempt, or no other attempt was allowed. -/
theorem Tries.error_cases {result : Except Stop (Except ε α)} {e : ε}
    (H : Tries s again body n trials es result) (hresult : result = .ok (.error e))
    (hn : s.maxAttempts = 0 ∨ n < s.maxAttempts) :
    ∃ before last, trials = before ++ [⟨last, .ok (.error e)⟩] ∧ (∀ t ∈ before, Failed again t) ∧
      (again e = false ∧ (∃ first, es = first ++ last) ∨
        again e = true ∧ s.maxAttempts ≠ 0 ∧ n + trials.length = s.maxAttempts) := by
  induction H with
  | cut => cases hresult
  | @ended n es result htrace hend =>
    subst hresult
    exact ⟨[], es, rfl, by simp, .inl ⟨hend e rfl, [], rfl⟩⟩
  | @spent n es e' idle result htrace hagain hlimit hspent _ hend =>
    rcases hend with rfl | ⟨why, rfl⟩
    · cases hresult
      refine ⟨[], es, rfl, by simp, .inr ⟨hagain, hlimit, ?_⟩⟩
      rw [List.length_singleton]
      omega
    · cases hresult
  | @again n es e' idle trials rest result htrace hagain hmore _ _ ih =>
    obtain ⟨before, last, rfl, hbefore, hend⟩ := ih hresult (by omega)
    refine ⟨⟨es, .ok (.error e')⟩ :: before, last, rfl,
      List.forall_mem_cons.2 ⟨⟨e', rfl, hagain⟩, hbefore⟩, ?_⟩
    rcases hend with ⟨hsettled, first, rfl⟩ | ⟨hfailed, hlimit, hlength⟩
    · exact .inl ⟨hsettled, es ++ idle ++ first, (List.append_assoc ..).symm⟩
    · refine .inr ⟨hfailed, hlimit, ?_⟩
      rw [List.length_cons]
      omega

/-- A result that no other attempt might mend ends the loop. -/
theorem Tries.settled_last {result : Except Stop (Except ε α)} {before after : List (Trial ε α)}
    {t : Trial ε α} {r : Except ε α} (H : Tries s again body n trials es result)
    (htrials : trials = before ++ t :: after) (ht : t.result = .ok r)
    (hr : mendable again r = false) :
    after = [] ∧ result = .ok r ∧ ∃ first, es = first ++ t.exchanges := by
  have hnot : ¬ Failed again t := by
    rintro ⟨e, he, hagain⟩
    rw [ht] at he
    cases he
    rw [show again e = false from hr] at hagain
    cases hagain
  induction H generalizing before with
  | cut => simp at htrials
  | @ended n es result htrace =>
    cases before with
    | nil =>
      cases htrials
      exact ⟨rfl, ht, [], rfl⟩
    | cons => simp at htrials
  | @spent n es e idle result htrace hagain =>
    have hmem : t ∈ [(⟨es, .ok (.error e)⟩ : Trial ε α)] := by
      rw [htrials]
      exact List.mem_append_right _ List.mem_cons_self
    exact absurd ⟨e, congrArg Trial.result (List.mem_singleton.1 hmem), hagain⟩ hnot
  | @again n es e idle trials rest result htrace hagain _ _ _ ih =>
    cases before with
    | nil =>
      obtain ⟨rfl, -⟩ := List.cons.inj htrials
      exact absurd ⟨e, rfl, hagain⟩ hnot
    | cons first before =>
      obtain ⟨hafter, hresult, later, rfl⟩ := ih (List.cons.inj htrials).2
      exact ⟨hafter, hresult, es ++ idle ++ later, (List.append_assoc ..).symm⟩

end Tries

/-! ## Conflicts -/

variable {body : Nat → Script (Except Error α)} {e : Error}

theorem exhausted_of_not_conflict (h : e.isConflict = false) : exhausted s operation e = e := by
  rw [exhausted, h]
  rfl

theorem exhausted_of_conflict (h : e.isConflict = true) :
    exhausted s operation e = .conflictExhausted operation s.maxAttempts e := by
  rw [exhausted, h]
  rfl

/-- How an error comes out of a loop with a limit that has made some calls. -/
inductive Surfaces (limit : Nat) (operation : String) (es : List Exchange) :
    List (Trial Error α) → Error → Prop
  /-- It is the error of the last call, after which nothing was asked. -/
  | passed {before first last e} : (∀ t ∈ before, Failed Error.isConflict t) →
    e.isConflict = false → es = first ++ last →
    Surfaces limit operation es (before ++ [⟨last, .ok (.error e)⟩]) e
  /-- All calls that are allowed have met a conflict, and it wraps the last one. -/
  | wrapped {before last e} : (∀ t ∈ before, Failed Error.isConflict t) → e.isConflict = true →
    limit ≠ 0 → before.length + 1 = limit →
    Surfaces limit operation es (before ++ [⟨last, .ok (.error e)⟩])
      (.conflictExhausted operation (before.length + 1) e)

theorem onConflict_surfaces {result : Except Stop (Except Error α)}
    (H : (onConflict horizon s operation body).Trace es result) :
    ∃ calls inner, Tries s Error.isConflict body 0 calls es inner ∧
      (∀ e, result = .ok (.error e) → e.isConflict = false ∧
        Surfaces s.maxAttempts operation es calls e) ∧
      ∀ before call after e, calls = before ++ call :: after → call.result = .ok (.error e) →
        e.isConflict = false →
          after = [] ∧ result = .ok (.error e) ∧ ∃ first, es = first ++ call.exchanges := by
  obtain ⟨calls, inner, htries, rfl⟩ := onConflict_tries H
  refine ⟨calls, inner, htries, fun e he => ?_, fun before call after e hcalls hcall he => ?_⟩
  · match inner with
    | .error why => cases he
    | .ok (.ok a) => cases he
    | .ok (.error e') =>
      cases he
      obtain ⟨before, last, rfl, hbefore, hend⟩ :=
        htries.error_cases rfl (Nat.eq_zero_or_pos s.maxAttempts)
      rcases hend with ⟨hother, first, hfirst⟩ | ⟨hconflict, hlimit, hlength⟩
      · rw [exhausted_of_not_conflict hother]
        exact ⟨hother, .passed hbefore hother hfirst⟩
      · rw [exhausted_of_conflict hconflict]
        rw [List.length_append, List.length_singleton, Nat.zero_add] at hlength
        rw [← hlength]
        exact ⟨rfl, .wrapped hbefore hconflict (hlength ▸ hlimit) rfl⟩
  · obtain ⟨hafter, rfl, hfirst⟩ := htries.settled_last hcalls hcall he
    refine ⟨hafter, ?_, hfirst⟩
    show Except.ok (Except.error (exhausted s operation e)) = _
    rw [exhausted_of_not_conflict he]

/-- The loop does what the one inside does, and may only wrap its error. -/
theorem Calls.Leads.onConflict {c : Calls body} {limit : Nat} {rest : List Exchange}
    {r r' : Except Error α} (H : c.Leads (fun horizon s => when horizon s operation Error.isConflict
      body) limit operation n rest r)
    (hr : ∀ s : Schedule, s.maxAttempts = limit → r.mapError (exhausted s operation) = r') :
    c.Leads (fun horizon s => onConflict horizon s operation body) limit operation n rest r' where
  performs s w horizon hlimit hpaces hhorizon := by
    rw [← hr s hlimit]
    exact ((H.performs s w horizon hlimit hpaces hhorizon).trace.mapped _).performs
  within := H.within

/-- No conflict comes out of the loop. It makes an error of its own only of the last conflict, after
all calls that are allowed have met one; every other error comes out unchanged, and right after the
call that has brought it up. -/
theorem conflicts_stay_inside (operation : String) (body : Nat → Script (Except Error α)) :
    (∀ (s : Schedule) (horizon : Nat) (es : List Exchange) (result : Except Stop (Except Error α)),
      (onConflict horizon s operation body).Trace es result →
      ∃ calls inner, Tries s Error.isConflict body 0 calls es inner ∧
        (∀ e, result = .ok (.error e) → e.isConflict = false ∧
          Surfaces s.maxAttempts operation es calls e) ∧
        ∀ before call after e, calls = before ++ call :: after → call.result = .ok (.error e) →
          e.isConflict = false →
            after = [] ∧ result = .ok (.error e) ∧ ∃ first, es = first ++ call.exchanges) ∧
    (∀ (c : Calls body) (limit n : Nat) (e : Error),
      (∀ i < n, mendable Error.isConflict (c.result i)) → c.result n = .error e →
      e.isConflict = false → (limit = 0 ∨ n < limit) →
      c.Leads (fun horizon s => onConflict horizon s operation body) limit operation n []
        (.error e)) ∧
    (∀ (c : Calls body) (limit : Nat), limit ≠ 0 →
      (∀ i < limit, mendable Error.isConflict (c.result i)) →
      ∃ last, c.result (limit - 1) = .error last ∧
        c.Leads (fun horizon s => onConflict horizon s operation body) limit operation (limit - 1)
          [gaveUp operation limit] (.error (.conflictExhausted operation limit last))) ∧
    ∀ e : Error, e.isConflict = true ↔
      ∃ answer : ApiError, e = .client (.api answer) ∧ answer.code = 409 := by
  refine ⟨fun s horizon es result H => onConflict_surfaces H,
    fun c limit n e hconflicts hlast he hmore => ?_, fun c limit hlimit hconflicts => ?_,
    fun e => Error.isConflict_iff⟩
  · have hsettled : mendable Error.isConflict (c.result n) = false := by rwa [hlast]
    refine (Calls.settled_leads hconflicts hsettled hmore).onConflict fun s _ => ?_
    rw [hlast]
    exact congrArg Except.error (exhausted_of_not_conflict he)
  · obtain ⟨last, hlast, hleads⟩ := Calls.spent_leads operation hlimit hconflicts
    refine ⟨last, hlast, hleads.onConflict fun s hs => ?_⟩
    have hconflict := hconflicts (limit - 1) (by omega)
    rw [hlast] at hconflict
    rw [← hs]
    exact congrArg Except.error (exhausted_of_conflict hconflict)

/-- A conflict that was wrapped twice. -/
def nested : Error :=
  .cascade "leaf" (.conflictExhausted "invalidate_leaf_secret" 4 (.api 409 "Conflict"))

/-- Two conflicts, and then one that was wrapped. -/
def ending : Calls fun _ => (Script.get .secret "ca").run :=
  reads fun n => .error (if n < 2 then .api 409 "Conflict" else nested)

/-- Nothing but conflicts. -/
def contended : Calls fun _ => (Script.get .secret "ca").run :=
  reads fun _ => .error (.api 409 "Conflict")

/-- An error that wraps a conflict comes out as it is, although a fourth call would be allowed; four
conflicts come out as one error. -/
theorem conflicts_stay_inside_nested :
    (onConflict 1 .onConflict "read" fun _ => (Script.get .secret "ca").run).Performs
      (ending.course evenly "read" 2) (.ok (.error nested)) ∧
    (onConflict 1 .onConflict "read" fun _ => (Script.get .secret "ca").run).Performs
      (contended.course evenly "read" 3 ++ [gaveUp "read" 4])
      (.ok (.error (.conflictExhausted "read" 4 (.api 409 "Conflict")))) := by
  obtain ⟨-, hother, hspent, -⟩ :=
    conflicts_stay_inside "read" fun _ => (Script.get .secret "ca").run
  refine ⟨?_, ?_⟩
  · have hleads := hother ending 4 2 nested (by decide) rfl rfl (.inr (by decide))
    rw [← List.append_nil (ending.course evenly "read" 2)]
    exact hleads.performs .onConflict evenly 1 rfl (fun i hi => paces_evenly i (by omega)) nofun
  · obtain ⟨last, hlast, hleads⟩ := hspent contended 4 (by decide) fun i _ => rfl
    cases hlast
    exact hleads.performs .onConflict evenly 1 rfl paces_evenly nofun

end Retry

end TrustAnchor
