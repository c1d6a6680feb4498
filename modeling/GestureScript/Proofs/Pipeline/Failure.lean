import GestureScript.Proofs.Pipeline.Legs

/-!
# Scripts that stop at a failure

A script that stops at the first failure does what one that goes on does, up to that
failure and not further. So its outcomes, and all that is observed of it, are a prefix.
-/

set_option autoImplicit false

namespace GestureScript.Pipeline

variable {σ : Type}

/-- What a capability was handed, in order. -/
def handed (i : Nat) (p : Pipeline σ) : List Submission :=
  p.fleet[i]?.elim [] fun cap => cap.gate.calls.map (·.submission)

def pausesMade (p : Pipeline σ) : List Event := p.trace.filter Event.isPause

theorem Evolves.handed {p p' : Pipeline σ} (h : p.Evolves p') (i : Nat) :
    p.handed i <+: p'.handed i := by
  cases hfound : p.fleet[i]? with
  | none => simp [Pipeline.handed, hfound]
  | some cap =>
    obtain ⟨cap', hfound', hruns⟩ := h.old i cap hfound
    have hsubmissions : ∀ g : Gate Nat,
        g.calls.map (·.submission) = (g.calls.map Gate.Call.request).map Prod.fst := by
      intro g
      rw [List.map_map]
      rfl
    rw [Pipeline.handed, Pipeline.handed, hfound, hfound', Option.elim_some, Option.elim_some,
      hsubmissions, hsubmissions]
    exact hruns.requests.map Prod.fst

namespace Traffic

variable {t : Traffic σ}

theorem reaches_runCommands (h : t.pipeline.Patient) (w : Worker σ) (others : Meanwhile σ)
    (stopOnFailure : Bool) (cs : List Command) :
    Reaches w t (t.runCommands w others stopOnFailure cs).2 := by
  induction cs generalizing t with
  | nil => exact .refl w t
  | cons c cs ih =>
    have hserve := reaches_serve w others c t
    have hrest := hserve.trans (reaches_rest w others (t.serve w others c))
    rw [runCommands_cons h]
    dsimp only
    split
    · exact hserve
    · exact hrest.trans (ih (hrest.patient h))

/-- The run that goes on is the run that stops, and what comes after the failure. -/
theorem reaches_of_stopped (h : t.pipeline.Patient) (w : Worker σ) (others : Meanwhile σ)
    (cs : List Command) :
    ∃ os kept stopped, t.runCommands w others false cs = (.ok os, kept) ∧
      t.runCommands w others true cs =
        (.ok (os.take (os.findIdx (·.isFailure) + 1)), stopped) ∧
      os.length = cs.length ∧ Reaches w stopped kept := by
  induction cs generalizing t with
  | nil => exact ⟨[], t, t, rfl, rfl, rfl, .refl w t⟩
  | cons c cs ih =>
    have hrest := reaches_rest w others (t.serve w others c)
    have hpatient := ((reaches_serve w others c t).trans hrest).patient h
    obtain ⟨os, kept, stopped, hkept, hstopped, hlength, hreaches⟩ := ih hpatient
    have hgoesOn := reaches_runCommands hpatient w others false cs
    rw [hkept] at hgoesOn
    rw [runCommands_cons h, runCommands_cons h]
    dsimp only
    rw [hkept, hstopped]
    generalize t.verdict w others c = o
    by_cases hlast : cs.isEmpty = true
    · refine ⟨[o], _, _, ?_, ?_, ?_, .refl w (t.serve w others c)⟩
      · simp [hlast]
      · cases hfails : o.isFailure <;> simp [hlast, hfails, List.findIdx_cons]
      · simpa using hlast
    · cases hfails : o.isFailure with
      | true =>
        -- one run stops here, and the other goes on from here
        refine ⟨o :: os, kept, _, ?_, ?_, ?_, hrest.trans hgoesOn⟩
        · simp [hlast, Except.map]
        · simp [hfails, List.findIdx_cons]
        · simpa using hlength
      | false =>
        refine ⟨o :: os, kept, stopped, ?_, ?_, ?_, hreaches⟩
        · simp [hlast, Except.map]
        · simp [hlast, hfails, List.findIdx_cons, Except.map]
        · simpa using hlength

end Traffic

end GestureScript.Pipeline
