import QuickFix.Session.State
import Std.Tactic.Do

/-!
# Triples of the primitives

What the primitives of a session do, as triples for the verification condition generator: each one
ends in the state its definition says.
-/

namespace QuickFix

set_option mvcgen.warning false

open Std.Do Session

variable {σ ω : Type}

namespace Session

/-- What holds after the session was read. -/
@[spec] lemma current_spec {Q : PostCond (Session σ) (.arg (Sys σ ω) .pure)} :
    ⦃fun s => Q.1 s.session s⦄ current ⦃Q⦄ :=
  fun _ h => h

/-- What holds after the session was updated. -/
@[spec] lemma update_spec {f : Session σ → Session σ} {Q : PostCond Unit (.arg (Sys σ ω) .pure)} :
    ⦃fun s => Q.1 () (s.updated f)⦄ update f ⦃Q⦄ :=
  fun _ h => h

/-- What holds after a call was noted. -/
@[spec] lemma note_spec {e : Event} {Q : PostCond Unit (.arg (Sys σ ω) .pure)} :
    ⦃fun s => Q.1 () (s.called e s.world)⦄ note e ⦃Q⦄ :=
  fun _ h => h

/-- What holds after a clock was read. -/
@[spec] lemma clock_spec {α : Type} {f : ω → α × ω} {Q : PostCond α (.arg (Sys σ ω) .pure)} :
    ⦃fun s => Q.1 (f s.world).1 { s with world := (f s.world).2 }⦄ clock f ⦃Q⦄ :=
  fun _ h => h

/-- What holds after the environment was called. -/
@[spec] lemma invoke_spec {α : Type} {e : α → Event} {f : ω → α × ω}
    {Q : PostCond α (.arg (Sys σ ω) .pure)} :
    ⦃fun s => Q.1 (f s.world).1 (s.called (e (f s.world).1) (f s.world).2)⦄ invoke e f ⦃Q⦄ :=
  fun _ h => h

/-- What holds after an error was ignored. -/
@[spec] lemma ignoring_spec {ε α : Type} {x : ExceptT ε (SessionM σ ω) α}
    {Q : PostCond Unit (.arg (Sys σ ω) .pure)} :
    ⦃wp⟦x⟧ (fun _ => Q.1 (), fun _ => Q.1 (), Q.2)⦄ ignoring x ⦃Q⦄ := by
  mvcgen [ignoring]

/-- A reset whose error is ignored. -/
@[spec high] lemma ignoring_storeReset_spec [MessageStore σ] [Runtime ω] {site : ResetSite}
    {Q : PostCond Unit (.arg (Sys σ ω) .pure)} :
    ⦃fun s => Q.1 () ({ s with world := (Runtime.utcNow s.world).2 }.stored
        (.reset site (MessageStore.reset (Runtime.utcNow s.world).1 s.session.store).1)
        (MessageStore.reset (Runtime.utcNow s.world).1 s.session.store).2)⦄
    ignoring (storeReset site) ⦃Q⦄ := by
  mvcgen [storeReset, utcNow, storeOp]

/-- What holds after an error was made to disconnect. -/
@[spec] lemma orDisconnect_spec {α : Type} {x : ExceptT Error (SessionM σ ω) α}
    {Q : PostCond α (.except Disconnect (.arg (Sys σ ω) .pure))} :
    ⦃wp⟦x⟧ (Q.1, fun _ => Q.2.1 .mk, Q.2.2)⦄ orDisconnect x ⦃Q⦄ := by
  mvcgen [orDisconnect]

end Session

end QuickFix
