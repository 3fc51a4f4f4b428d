/-
# Hosts

A session talks to its host through calls that open, write, flush and close connections.  The host
answers each call at once and talks back through deliveries, which can come during a call, while
the session waits, or at moments when it does neither.  Hosts are arbitrary: everything that is
true of a session is true whatever its host does, in whatever order deliveries come.
-/
import ScriptedShell.Failure
import ScriptedShell.Remote.Endpoint

namespace ScriptedShell.Remote

/-- What comes in through a connection. -/
inductive Signal where
  | data (bytes : List UInt8)
  | broken (cause : Failure)
  deriving Repr, DecidableEq

/-- A signal of one of the connections that the session has asked for, old ones included. -/
structure Delivery where
  connection : Nat
  signal : Signal
  deriving Repr, DecidableEq

/-- The answer to a call: why it failed, if it did, and what is delivered during it. -/
structure Reply (σ : Type) where
  failure : Option Failure := none
  deliveries : List Delivery := []
  world : σ

/-- What arrives while the session waits, in batches between which the session looks.  With each
batch goes the world in case the session stops waiting there. -/
inductive Arrivals (σ : Type) where
  /-- Nothing more arrives before the wait gives up, or ever if it does not give up. -/
  | nothing (world : σ)
  | batch (deliveries : List Delivery) (world : σ) (more : Arrivals σ)

/-- Moments at which a session is neither calling its host nor waiting. -/
inductive Moment where
  /-- A further attempt to connect has been announced and is about to be made. -/
  | retrying
  /-- The request for the password was seen and the password is about to be written. -/
  | answering
  /-- No request for the password was seen and the session is about to wait for the prompt. -/
  | resuming
  /-- A prompt was seen and the output is about to be collected. -/
  | collecting
  /-- The first prompt was seen and the session is about to be open. -/
  | settling
  /-- No prompt was seen and the connection is about to be closed. -/
  | dropping
  /-- The screen is cleared and fixed-row mode is about to begin. -/
  | drawing
  /-- A line has been read and is about to be dispatched. -/
  | dispatching
  deriving Repr, DecidableEq

/-- A host, acting on worlds of type `σ`. -/
structure Host (σ : Type) where
  /-- Ask for the connection with this number. -/
  openShell : Nat → Endpoint → Duration → σ → Reply σ
  write : Nat → String → σ → Reply σ
  flush : Nat → σ → Reply σ
  close : Nat → σ → Reply σ
  /-- What arrives during a wait, which gives up after the time given, if one is. -/
  await : Option Duration → σ → Arrivals σ
  /-- What arrives at a moment. -/
  pause : Moment → σ → List Delivery × σ

end ScriptedShell.Remote
