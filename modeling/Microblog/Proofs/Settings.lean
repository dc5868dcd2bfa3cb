import Microblog.Http.Server
import Microblog.Proofs.Social.Run

/-!
# Settings that pass their check

`Settings.load` is how the program gets its settings: it reads them and then checks them.  The
check keeps out what is zero (`Settings.check_eq_ok_iff`), and that is all.  So of the ways in which
a first frame can fail, a heartbeat without pause is excluded, but not a heartbeat that comes after
the end of time, nor a mailbox larger than a mailbox can be.

`Server.connect_of_load` says of every server with loaded settings, at every time, what the first
frame of a stream is, and that these two are the only ways to fail.
-/

set_option autoImplicit false

namespace Microblog

/-! ## What the check asks for -/

namespace Settings

/-- Read the settings and check them. -/
def load (env : Environment) : Except SettingsError Settings := do
  let settings ← read env
  settings.check
  return settings

/-- The settings where no variable is set. -/
def defaults : Settings where
  databasePath := "./data/chirp.sqlite"
  webHost := "0.0.0.0"
  webPort := 8080
  origins := ["http://localhost:3000"]
  throttle := ⟨5, 10, 180 * second, 60 * second⟩
  cacheEnabled := true
  feedLifetime := 30
  trendingLifetime := 300
  heartbeat := 30
  mailboxCapacity := 10

/-- The defaults pass their check. -/
theorem load_nil : load [] = .ok defaults := by decide +kernel

/-- Settings without a zero where it makes no sense. -/
structure Positive (s : Settings) : Prop where
  perSecond : 0 < s.throttle.perSecond
  burst : 0 < s.throttle.burst
  sweepInterval : 0 < s.throttle.sweepInterval
  heartbeat : 0 < s.heartbeat
  mailboxCapacity : 0 < s.mailboxCapacity
  origins : s.origins ≠ []

theorem guard_eq_ok_iff {n : Nat} {error : SettingsError} {rest : Except SettingsError Unit} :
    ((if n = 0 then .error error else .ok ()) >>= fun _ ↦ rest) = .ok () ↔
      0 < n ∧ rest = .ok () := by
  split
  · next h => simp [h, bind, Except.bind]
  · next h => simp [Nat.pos_of_ne_zero h, bind, Except.bind]

theorem check_eq_ok_iff {s : Settings} : s.check = .ok () ↔ s.Positive := by
  have horigins : (if s.origins.isEmpty then
      Except.error (SettingsError.invalid "FRONTEND_URL" "cannot be empty") else .ok ()) =
      .ok () ↔ s.origins ≠ [] := by
    cases s.origins <;> simp
  simp only [check, guard_eq_ok_iff, horigins]
  exact ⟨fun ⟨h₁, h₂, h₃, h₄, h₅, h₆⟩ ↦ ⟨h₁, h₂, h₃, h₄, h₅, h₆⟩,
    fun ⟨h₁, h₂, h₃, h₄, h₅, h₆⟩ ↦ ⟨h₁, h₂, h₃, h₄, h₅, h₆⟩⟩

theorem positive_of_load {env : Environment} {s : Settings} (h : load env = .ok s) :
    s.Positive := by
  simp only [load, bind_eq_ok_iff, pure_eq_ok_iff] at h
  obtain ⟨settings, -, _, hcheck, rfl⟩ := h
  exact check_eq_ok_iff.1 hcheck

end Settings

/-! ## The first frame -/

open Settings (second)

/-- A session with a heartbeat in whole seconds, which is not zero, fails to open only if the
heartbeat comes after the end of time. -/
theorem Session.start_eq (now : Nat) (recipient : Int) {seconds : Nat} (hpos : 0 < seconds) :
    Session.start now recipient (seconds * 1000) =
      if Session.endOfTime ≤ now / second + seconds then .error .heartbeat
      else .ok ⟨recipient, seconds * second, now + seconds * second, .connecting⟩ := by
  have hperiod : seconds * 1000 * Session.millisecond = seconds * second := by
    rw [Session.millisecond, second, Nat.mul_assoc]
  have hseconds : (now + seconds * second) / (1000 * Session.millisecond) =
      now / second + seconds := Nat.add_mul_div_right _ _ (by decide)
  have hzero : seconds * second ≠ 0 := Nat.mul_ne_zero (Nat.ne_of_gt hpos) (by decide)
  simp only [Session.start, hperiod, hseconds, hzero, false_or]

/-- A session that has not connected yields a frame that says so, if it can have a mailbox. -/
theorem Session.next_connecting (now : Nat) (recipient : Int) (period deadline : Nat) (b : Broker) :
    Session.next now false ⟨recipient, period, deadline, .connecting⟩ b =
      if b.capacity < Broker.tooLarge then
        .ok (.frame .connected, ⟨recipient, period, deadline, .streaming (some b.opened)⟩,
          (b.register recipient).2)
      else .error .mailboxTooLarge := by
  simp only [Session.next, Session.nextFrom, Broker.subscribe, Bool.false_eq_true, if_false]
  split <;> rfl

namespace Server

/-- Open the session behind a stream and take its first frame. -/
def connect (recipient : Int) (s : Server) : Except Abort (Yield × Session × Broker) := do
  (← s.openStream recipient).next s.social.now s.isStopping s.social.broker

theorem advance_zero (s : Server) : s.advance 0 = s := rfl

/-- The server as it starts with some settings. -/
def started (settings : Settings) : Server where
  settings := settings
  social := .start settings.mailboxCapacity settings.cacheEnabled
    ⟨settings.feedLifetime * second, settings.trendingLifetime * second⟩
  throttle := .new settings.throttle
  isStopping := false

theorem new_eq (settings : Settings) : Server.new settings = .ok (started settings) := by
  rw [Server.new, Social.new_eq]
  rfl

/-- What the first frame of a stream is, at a time after the start. -/
theorem connect_started {settings : Settings} (hpos : settings.Positive) (ns : Nat)
    (recipient : Int) :
    ((started settings).advance ns).connect recipient =
      if Session.endOfTime ≤ ns / second + settings.heartbeat then .error .heartbeat
      else if settings.mailboxCapacity < Broker.tooLarge then
        .ok (.frame .connected,
          ⟨recipient, settings.heartbeat * second, ns + settings.heartbeat * second,
            .streaming (some 0)⟩,
          ((Broker.new settings.mailboxCapacity).register recipient).2)
      else .error .mailboxTooLarge := by
  simp only [connect, openStream, advance, started, Social.start, Nat.zero_add,
    Session.start_eq ns recipient hpos.heartbeat]
  split
  · rfl
  · simp only [bind, Except.bind, Session.next_connecting, Broker.new,
      Nat.max_eq_left hpos.mailboxCapacity]

/-- **Loaded settings make a server, and only the end of time or the size of a mailbox can keep a
stream from its first frame.** -/
theorem connect_of_load (env : Environment) (settings : Settings)
    (h : Settings.load env = .ok settings) :
    settings.Positive ∧ ∃ server, Server.new settings = .ok server ∧
      server.throttle = .new settings.throttle ∧
      server.social.broker = .new settings.mailboxCapacity ∧
      ∀ ns recipient, (server.advance ns).connect recipient =
        if Session.endOfTime ≤ ns / second + settings.heartbeat then .error .heartbeat
        else if settings.mailboxCapacity < Broker.tooLarge then
          .ok (.frame .connected,
            ⟨recipient, settings.heartbeat * second, ns + settings.heartbeat * second,
              .streaming (some 0)⟩,
            ((Broker.new settings.mailboxCapacity).register recipient).2)
        else .error .mailboxTooLarge := by
  have hpos := Settings.positive_of_load h
  exact ⟨hpos, _, new_eq settings, rfl, rfl, connect_started hpos⟩

/-- Mailboxes may be as large as a mailbox can be. -/
theorem connect_of_load_largest :
    let settings := { Settings.defaults with mailboxCapacity := Broker.tooLarge - 1 }
    Settings.load [("NOTIFICATION_MAILBOX_CAPACITY", "2305843009213693951")] = .ok settings ∧
      ∃ server, Server.new settings = .ok server ∧
        ((server.advance 5000000000).connect 1).map (·.1) = .ok (.frame .connected) := by
  intro settings
  have hload : Settings.load [("NOTIFICATION_MAILBOX_CAPACITY", "2305843009213693951")] =
      .ok settings := by decide +kernel
  obtain ⟨-, server, hnew, -, -, hconnect⟩ := connect_of_load _ settings hload
  refine ⟨hload, server, hnew, ?_⟩
  rw [hconnect, if_neg (by decide), if_pos (by decide)]
  rfl

/-- The check lets settings through with which no stream gets its first frame: a heartbeat beyond
the end of time, and mailboxes that are too large. -/
theorem load_accepts_unusable :
    (∃ settings server,
      Settings.load [("NOTIFICATION_HEARTBEAT_SECS", "18446744073709551615")] = .ok settings ∧
        Server.new settings = .ok server ∧ server.connect 1 = .error .heartbeat) ∧
    ∃ settings server,
      Settings.load [("NOTIFICATION_MAILBOX_CAPACITY", "2305843009213693952")] = .ok settings ∧
        Server.new settings = .ok server ∧ server.connect 1 = .error .mailboxTooLarge := by
  have hheartbeat : Settings.load [("NOTIFICATION_HEARTBEAT_SECS", "18446744073709551615")] =
      .ok { Settings.defaults with heartbeat := Settings.max64 } := by decide +kernel
  have hmailbox : Settings.load [("NOTIFICATION_MAILBOX_CAPACITY", "2305843009213693952")] =
      .ok { Settings.defaults with mailboxCapacity := Broker.tooLarge } := by decide +kernel
  refine ⟨⟨_, _, hheartbeat, new_eq _, ?_⟩, ⟨_, _, hmailbox, new_eq _, ?_⟩⟩
  · rw [← advance_zero (started _), connect_started (Settings.positive_of_load hheartbeat),
      if_pos (by decide)]
  · rw [← advance_zero (started _), connect_started (Settings.positive_of_load hmailbox),
      if_neg (by decide), if_neg (by decide)]

end Server

end Microblog
