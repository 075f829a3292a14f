import LiveSession.Proofs.Client.Attempts

/-!
# Pages

A page that is loaded has a number of its own. Clearing a session leaves no page, and neither does a
script that ends.
-/

namespace LiveSession

variable {ω : Type} [Transports ω] {c c' : Client ω} {k k' : List Held}

namespace Client

theorem page_clear (c : Client ω) : c.clear.session.page = none := by
  show c.unloadPage.session.page = none
  rw [(closes_unloadPage c).session]
  rfl

theorem recordings_clear (c : Client ω) : c.clear.recordings = c.recordings :=
  (closes_unloadPage c).recordings_eq

omit [Transports ω] in
theorem recordings_receive (c : Client ω) (path : String) (a : Answer) :
    (c.receive path a).1.recordings = c.recordings := by
  unfold receive
  cases a.result <;> rfl

theorem recordings_pollRequest (c : Client ω) (r : RequestAction) (ticket : Ticket) :
    (c.pollRequest r ticket).1.recordings = c.recordings := by
  unfold pollRequest finishRequest?
  cases Transports.answer? ticket c.world with
  | none => rfl
  | some a =>
    have received := c.recordings_receive r.path a
    dsimp only [Option.map_some, ended]
    generalize c.receive r.path a = result at received
    obtain ⟨c', e | response⟩ := result
    · exact received
    · dsimp only
      unfold place
      split
      · exact received
      · split
        · exact received
        · exact (closes_loadPage c' response).recordings_eq.trans received

theorem recordings_dispatchRequest (c : Client ω) (kind : HttpKind) (r : RequestAction) :
    (c.dispatchRequest kind r).1.recordings = c.recordings := by
  have started : (c.startRequest kind r).1.recordings = c.recordings := by
    unfold startRequest send
    split
    · rfl
    · split <;> rfl
  unfold dispatchRequest
  generalize c.startRequest kind r = result at started
  obtain ⟨c', e | ticket⟩ := result
  · exact started
  · exact (recordings_pollRequest c' r ticket).trans started

/-! ### Scripts that end -/

theorem page_endScript (c : Client ω) (result : ScriptResult) :
    (c.endScript result).1.session.page = none :=
  c.page_clear

theorem page_runSteps {c : Client ω} {s : Script} {outcomes : List Outcome}
    {steps : List ScriptStep} {result : ScriptResult}
    (done : (c.runSteps s outcomes steps).2 = .done result) :
    (c.runSteps s outcomes steps).1.session.page = none := by
  induction steps generalizing c outcomes with
  | nil => exact c.page_endScript _
  | cons step rest ih =>
    unfold runSteps at done ⊢
    generalize c.drawDelay s step = drawn at done ⊢
    obtain ⟨c', delay⟩ := drawn
    dsimp only at done ⊢
    split at done
    · cases done
    · rename_i now
      rw [if_neg now]
      generalize c'.dispatch step.action = started at done ⊢
      obtain ⟨c'', (e | o) | job⟩ := started
      · exact c''.page_endScript _
      · exact ih done
      · cases done

theorem page_afterStep {r : ScriptRun} {c : Client ω} {progress : Progress}
    {result : ScriptResult} (done : (afterStep r (c, progress)).2 = .done result) :
    (afterStep r (c, progress)).1.session.page = none := by
  obtain (e | o) | job := progress
  · exact c.page_endScript _
  · exact page_runSteps done
  · cases done

theorem page_pollScript {c : Client ω} {r : ScriptRun} {result : ScriptResult}
    (done : (c.pollScript r).2 = .done result) : (c.pollScript r).1.session.page = none := by
  unfold pollScript at done ⊢
  cases phase : r.phase with
  | delay action due =>
    rw [phase] at done
    dsimp only at done ⊢
    split at done
    · rename_i now
      rw [if_pos now]
      exact page_afterStep done
    · cases done
  | act job =>
    rw [phase] at done
    exact page_afterStep done

theorem page_runScript {c : Client ω} {s : Script} {result : ScriptResult}
    (idle : c.running = false) (named : Text.isBlankText s.name = false)
    (done : (c.runScript s).2 = .done result) : (c.runScript s).1.session.page = none := by
  unfold runScript at done ⊢
  rw [named, idle] at done ⊢
  exact page_runSteps done

end Client

/-! ### Numbers of pages -/

theorem Act.pages_le (act : Act c k c' k') : c.pages ≤ c'.pages := by
  cases act with
  | quiet still world => exact Nat.le_of_eq still.pages.symm
  | deliver channel s => exact Nat.le_of_eq (Client.closes_deliver c channel s).pages.symm
  | release s =>
    obtain ⟨_, _, after⟩ := c.release_eq s.race
    exact Nat.le_of_eq (congrArg Client.pages after).symm
  | abandoned p => exact Nat.le_of_eq (Client.closes_disconnect c _).pages.symm
  | unloaded => exact Nat.le_of_eq (Client.closes_unloadPage c).pages.symm
  | loaded response =>
    rw [(Client.closes_loadPage c response).pages]
    exact Nat.le_succ _
  | _ => exact Nat.le_refl _

theorem Act.pageId_or_new (act : Act c k c' k') {page : PageId} (current : c'.pageId? = some page) :
    c.pageId? = some page ∨ c.pages ≤ page := by
  have closes {closed : List ChannelId} {c₁ : Client ω} (closes : Client.Closes closed c₁ c') :
      c₁.pageId? = some page := by
    unfold Client.pageId? at current ⊢
    rw [← closes.session]
    exact current
  cases act with
  | quiet still world =>
    unfold Client.pageId? at current ⊢
    exact .inl (still.page ▸ current)
  | deliver channel s => exact .inl (closes (Client.closes_deliver c channel s))
  | release s => exact .inl (Client.pageId_release c s.race ▸ current)
  | recorded isPage same =>
    rename_i page' p
    have after : (c.session.record p.channel).page.map Page.id = c.pageId? := by
      unfold Session.record Client.pageId?
      rw [isPage]
      rfl
    exact .inl (after ▸ current)
  | abandoned p => exact .inl (closes (Client.closes_disconnect c _))
  | unloaded => cases closes (Client.closes_unloadPage c)
  | loaded response =>
    cases closes (Client.closes_loadPage c response)
    exact .inr (Nat.le_refl _)
  | _ => exact .inl current

/-- A page is the one from before, or it has a new number. -/
theorem Acts.pageId_or_new (acts : Acts c k c' k') {page : PageId}
    (current : c'.pageId? = some page) : c.pageId? = some page ∨ c.pages ≤ page := by
  induction acts with
  | refl => exact .inl current
  | step act _ ih =>
    rcases ih current with before | new
    · exact act.pageId_or_new before
    · exact .inr (Nat.le_trans act.pages_le new)

end LiveSession
