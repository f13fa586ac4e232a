import TrustAnchor.Proofs.Footprint
import TrustAnchor.Rotation.Reconcile

/-! How the controller starts: it looks for the secret of the authority, makes a pass if there is
none, and if that fails it leaves an empty secret. -/

namespace TrustAnchor.Rotation

open Script (Attempt Runs)

/-- Looks whether there is a secret of the name, again after each failure. -/
def presence (horizon : Nat) (name : String) (schedule : Schedule) : Attempt Bool :=
  Retry.always horizon schedule "read_ca_secret" fun _ =>
    (Option.isSome <$> Script.get .secret name : Attempt Bool)

variable {R : Scene → Scene → Prop} {horizon : Nat} {c : Controller} {schedule : Schedule}
  {name namespaceName : String} {s t : Scene}

theorem presence_asks : (presence horizon name schedule).run.Asks
    fun r => r.ReadsOnly ∧ ¬ r.Generates := by
  refine Retry.attempts_asks (fun {r} hidle => ?_) fun _ => ⟨⟨rfl, id⟩, fun answer _ => ?_⟩
  · cases r with
    | store | generate => exact hidle.elim
    | _ => exact ⟨trivial, id⟩
  · match answer with
    | .error text => trivial
    | .ok (.error e) => trivial
    | .ok (.ok found) => trivial

/-- How a start runs, one constructor for each place where it can end. -/
inductive Startup (R : Scene → Scene → Prop) (horizon : Nat) (c : Controller) (schedule : Schedule)
    (s : Scene) : Except Stop (Except Error Bootstrap) → Scene → Prop
  | unseen {f : Failure} {t : Scene} :
    (presence horizon c.caSecret schedule).run.Runs R s f.result t →
    Startup R horizon c schedule s f.result t
  | present {t : Scene} :
    (presence horizon c.caSecret schedule).run.Runs R s (.ok (.ok true)) t →
    Startup R horizon c schedule s (.ok (.ok .alreadyPresent)) t
  | stopped {why : Stop} {m t : Scene} :
    (presence horizon c.caSecret schedule).run.Runs R s (.ok (.ok false)) m →
    (pass horizon c).run.Runs R m (.error why) t → Startup R horizon c schedule s (.error why) t
  | issued {report : PassReport} {m t : Scene} :
    (presence horizon c.caSecret schedule).run.Runs R s (.ok (.ok false)) m →
    (pass horizon c).run.Runs R m (.ok (.ok report)) t →
    Startup R horizon c schedule s (.ok (.ok (.issued report))) t
  | unfilled {e : Error} {f : Failure} {m n t : Scene} :
    (presence horizon c.caSecret schedule).run.Runs R s (.ok (.ok false)) m →
    (pass horizon c).run.Runs R m (.ok (.error e)) n →
    (ensureSecret horizon c.caSecret c.namespaceName schedule).run.Runs R n f.result t →
    Startup R horizon c schedule s f.result t
  | deferred {e : Error} {created : Bool} {m n t : Scene} :
    (presence horizon c.caSecret schedule).run.Runs R s (.ok (.ok false)) m →
    (pass horizon c).run.Runs R m (.ok (.error e)) n →
    (ensureSecret horizon c.caSecret c.namespaceName schedule).run.Runs R n
      (.ok (.ok created)) t →
    Startup R horizon c schedule s (.ok (.ok .deferred)) t

theorem startup_of_runs [IsPreorder Scene R] {result : Except Stop (Except Error Bootstrap)}
    (H : (bootstrap horizon c schedule).run.Runs R s result t) :
    Startup R horizon c schedule s result t := by
  obtain ⟨f, rfl, h⟩ | ⟨present, m, hpresence, H⟩ := Runs.attempt_failure H
  · exact .unseen h
  split at H
  · rename_i hpresent
    subst hpresent
    obtain ⟨rfl, hR⟩ := H
    exact .present (hpresence.after hR)
  · rename_i hpresent
    rw [Bool.not_eq_true] at hpresent
    subst hpresent
    have attempted {result n} (h : (Bootstrap.issued <$> pass horizon c).run.Runs R m result n) :
        (∃ f : Failure, result = f.result ∧ (pass horizon c).run.Runs R m f.result n) ∨
          ∃ report, result = .ok (.ok (.issued report)) ∧
            (pass horizon c).run.Runs R m (.ok (.ok report)) n := by
      rw [map_eq_pure_bind] at h
      rcases h.attempt_failure with h | ⟨report, n', hpass, hresult, hR⟩
      · exact .inl h
      · exact .inr ⟨report, hresult, hpass.after hR⟩
    rcases Runs.bind H with ⟨why, rfl, h⟩ | ⟨answer, n, h, H⟩
    · obtain ⟨f, hf, hpass⟩ | ⟨_, hreport, -⟩ := attempted h
      · cases f with
        | stop why =>
          cases hf
          exact .stopped hpresence hpass
        | error e => cases hf
      · cases hreport
    · obtain ⟨f, hf, hpass⟩ | ⟨report, hreport, hpass⟩ := attempted h
      · cases f with
        | stop why => cases hf
        | error e =>
          cases hf
          obtain ⟨f, rfl, hensure⟩ | ⟨created, n', hensure, rfl, hR⟩ := Runs.attempt_failure H
          · exact .unfilled hpresence hpass hensure
          · exact .deferred hpresence hpass (hensure.after hR)
      · cases hreport
        obtain ⟨rfl, hR⟩ := H
        exact .issued hpresence (hpass.after hR)

/-! ## Leaving an empty secret -/

/-- How an attempt to leave an empty secret runs. -/
inductive Ensuring (R : Scene → Scene → Prop) (name namespaceName : String) (s t : Scene) :
    Except Stop (Except Error Bool) → Prop
  | unread {f : Failure} {m : Scene} {answer : Except String (Except Error (Option Secret))}
    {stores : Stores} (h : m.Answers (.store .secret (.get name)) answer stores) :
    R s m → R (m.after h) t → Ensuring R name namespaceName s t f.result
  | found {x : Secret} {m : Scene} {stores : Stores}
    (h : m.Answers (.store .secret (.get name)) (.ok (.ok (some x))) stores) :
    R s m → R (m.after h) t → Ensuring R name namespaceName s t (.ok (.ok false))
  | created {y : Secret} {m n : Scene} {stores stores' : Stores}
    (h : m.Answers (.store .secret (.get name)) (.ok (.ok none)) stores)
    (h' : n.Answers (.store .secret (.create (emptySecret name namespaceName))) (.ok (.ok y))
      stores') :
    R s m → R (m.after h) n → R (n.after h') t →
    Ensuring R name namespaceName s t (.ok (.ok true))
  /-- Another writer was faster. -/
  | overtaken {e : Error} {m n : Scene} {stores stores' : Stores}
    (h : m.Answers (.store .secret (.get name)) (.ok (.ok none)) stores)
    (h' : n.Answers (.store .secret (.create (emptySecret name namespaceName))) (.ok (.error e))
      stores') :
    e.isConflict = true → R s m → R (m.after h) n → R (n.after h') t →
    Ensuring R name namespaceName s t (.ok (.ok false))
  | refused {f : Failure} {m n : Scene} {stores stores' : Stores}
    {answer : Except String (Except Error Secret)}
    (h : m.Answers (.store .secret (.get name)) (.ok (.ok none)) stores)
    (h' : n.Answers (.store .secret (.create (emptySecret name namespaceName))) answer stores') :
    (∀ y, answer ≠ .ok (.ok y)) → R s m → R (m.after h) n → R (n.after h') t →
    Ensuring R name namespaceName s t f.result

/-- One attempt to leave an empty secret. -/
def ensureOnce (name namespaceName : String) : Attempt Bool := do
  if (← Script.get .secret name).isSome then return false
  tryCatch
    (do
      let _ ← Script.create .secret (emptySecret name namespaceName)
      return true)
    fun e => if e.isConflict then return false else throw e

theorem ensuring_of_runs {result : Except Stop (Except Error Bool)}
    (H : (ensureOnce name namespaceName).run.Runs R s result t) :
    Ensuring R name namespaceName s t result := by
  obtain ⟨m, answer, stores, hm, h, H⟩ := H
  rcases answer with text | e | _ | x
  · obtain ⟨rfl, hR⟩ := H
    exact .unread (f := .stop (.panicked text)) h hm hR
  · obtain ⟨rfl, hR⟩ := H
    exact .unread (f := .error e) h hm hR
  · obtain ⟨n, answer', stores', hn, h', H⟩ := H
    rcases answer' with text | e | y
    · obtain ⟨rfl, hR⟩ := H
      exact .refused (f := .stop (.panicked text)) h h' (fun y hy => by cases hy) hm hn hR
    · have H : (if e.isConflict then pure false else throw e : Attempt Bool).run.Runs R
        (n.after h') result t := H
      split at H
      · rename_i hconflict
        obtain ⟨rfl, hR⟩ := H
        exact .overtaken h h' hconflict hm hn hR
      · obtain ⟨rfl, hR⟩ := H
        exact .refused (f := .error e) h h' (fun y hy => by cases hy) hm hn hR
    · obtain ⟨rfl, hR⟩ := H
      exact .created h h' hm hn hR
  · obtain ⟨rfl, hR⟩ := H
    exact .found h hm hR

theorem ensureSecret_eq : (ensureSecret horizon name namespaceName schedule).run =
    Retry.always horizon schedule "ensure_ca_secret" fun _ =>
      (ensureOnce name namespaceName).run := rfl

end TrustAnchor.Rotation
