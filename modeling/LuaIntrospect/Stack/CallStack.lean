import LuaIntrospect.Stack.Frame
/-!
The call stack: frames from the oldest to the newest, and the script path that stands in for
frames without one. Levels count from the top: level 1 is the newest frame, level `depth` the
oldest, and level 0 names no frame.
-/
namespace LuaIntrospect

/-- The frames of the running calls, oldest first. -/
structure CallStack where
  frames : Array Frame := #[]
  scriptPath : Option String := none

namespace CallStack

def depth (s : CallStack) : Nat := s.frames.size

def push (s : CallStack) (f : Frame) : CallStack := { s with frames := s.frames.push f }

/-- Removes the top frame, if any. -/
def pop (s : CallStack) : CallStack := { s with frames := s.frames.pop }

def unwindTo (s : CallStack) (depth : Nat) : CallStack :=
  { s with frames := s.frames.take depth }

def top? (s : CallStack) : Option Frame := s.frames.back?

/-- Changes the newest frame, if there is one. -/
def modifyTop (s : CallStack) (g : Frame → Frame) : CallStack :=
  if s.frames.size = 0 then s
  else { s with frames := s.frames.modify (s.frames.size - 1) g }

/-- The frame at a level counted from the top. -/
def frameAt? (s : CallStack) (level : Nat) : Option Frame :=
  if level = 0 ∨ level > s.depth then none else s.frames[s.depth - level]?

/-- The frames from the newest to the oldest. -/
def newestFirst (s : CallStack) : List Frame := s.frames.toList.reverse

end CallStack

end LuaIntrospect
