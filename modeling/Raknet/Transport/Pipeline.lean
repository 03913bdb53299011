-- SUMMARY: The buffer for application frames that arrive before a session is connected.
import Raknet.Session.State

namespace Raknet

inductive PipelineFrameAction where
  | deliver
  | queued
  | overflow
deriving DecidableEq, Repr

structure SessionPipeline where
  pendingUnhandled : List Frame
  pendingUnhandledBytes : Nat
  maxUnhandledFrames : Nat
  maxUnhandledBytes : Nat
  unhandledFramesQueued : Nat
  unhandledFramesFlushed : Nat
  unhandledFramesDropped : Nat
deriving DecidableEq, Repr

namespace SessionPipeline

def new (maxUnhandledFrames maxUnhandledBytes : Nat) : SessionPipeline :=
  { pendingUnhandled := []
    pendingUnhandledBytes := 0
    maxUnhandledFrames := max maxUnhandledFrames 1
    maxUnhandledBytes := max maxUnhandledBytes 1
    unhandledFramesQueued := 0
    unhandledFramesFlushed := 0
    unhandledFramesDropped := 0 }

/-- The action, the pipeline and the frames to deliver, with the new ones behind
    those that are there. -/
def routeInboundAppFrame (p : SessionPipeline) (state : SessionState) (frame : Frame)
    (out : List Frame) : PipelineFrameAction × SessionPipeline × List Frame :=
  if state = .connected then
    (.deliver, p, out ++ [frame])
  else if p.pendingUnhandled.length ≥ p.maxUnhandledFrames ∨
      p.pendingUnhandledBytes + frame.payload.length > p.maxUnhandledBytes then
    (.overflow, { p with unhandledFramesDropped := satAdd p.unhandledFramesDropped 1 }, out)
  else
    (.queued,
      { p with
        pendingUnhandledBytes := p.pendingUnhandledBytes + frame.payload.length
        pendingUnhandled := p.pendingUnhandled ++ [frame]
        unhandledFramesQueued := satAdd p.unhandledFramesQueued 1 },
      out)

/-- The loop of `flush_if_connected` takes the frames in order and their bytes
    off the count. -/
def flushIfConnected (p : SessionPipeline) (state : SessionState) (out : List Frame) :
    SessionPipeline × List Frame :=
  if state ≠ .connected ∨ p.pendingUnhandled = [] then
    (p, out)
  else
    ({ p with
        pendingUnhandled := []
        pendingUnhandledBytes :=
          p.pendingUnhandled.foldl (fun bytes frame => bytes - frame.payload.length)
            p.pendingUnhandledBytes
        unhandledFramesFlushed :=
          satAdd p.unhandledFramesFlushed p.pendingUnhandled.length },
      out ++ p.pendingUnhandled)

end SessionPipeline

end Raknet
