import Mathlib.Data.List.Basic
import SourceAtlas.CommandLine.World

/-!
What a run of the program does to its surroundings. The program sees a host and nothing else, so
statements about it hold for every host that keeps a few laws: it may refuse to read, to open or to
write for reasons of its own. A command that reads a source either succeeds and changes the one
thing it was asked to write, or it fails. What a failure leaves behind depends on what refusals of
the host leave behind: where a refused opening changes nothing, everything is as it was, unless the
output file could be opened and then not be written.
-/

namespace SourceAtlas.CommandLine

namespace Files

end Files

namespace FileSystem

end FileSystem

variable {State Handle : Type}

/-- What can be seen of a state: files and directories, what is still to come from standard input,
and what was printed on standard output. Of a file that was opened for writing its place can be
seen, and of a path whether it is that of a device, where there is no file to be found. -/
structure View (State Handle : Type) where
  system : State → FileSystem
  input : State → ByteArray
  printed : State → String
  place? : Handle → Option (List String)
  isDevice : String → Bool

namespace View

structure Untouched (view : View State Handle) (before after : State) : Prop where
  system : view.system after = view.system before
  printed : view.printed after = view.printed before

structure Quiet (view : View State Handle) (before after : State) : Prop extends
    view.Untouched before after where
  input : view.input after = view.input before

theorem Untouched.refl (view : View State Handle) (state : State) : view.Untouched state state :=
  ⟨rfl, rfl⟩

theorem Quiet.refl (view : View State Handle) (state : State) : view.Quiet state state :=
  ⟨.refl view state, rfl⟩

theorem Untouched.trans {view : View State Handle} {before middle after : State}
    (first : view.Untouched before middle) (second : view.Untouched middle after) :
    view.Untouched before after :=
  ⟨second.system.trans first.system, second.printed.trans first.printed⟩

theorem Quiet.trans {view : View State Handle} {before middle after : State}
    (first : view.Quiet before middle) (second : view.Quiet middle after) :
    view.Quiet before after :=
  ⟨first.toUntouched.trans second.toUntouched, second.input.trans first.input⟩

/-- A device was given a text: it may be the device of standard output, and it has no file. -/
structure Takes (view : View State Handle) (text : String) (before after : State) : Prop where
  system : view.system after = view.system before
  printed : view.printed after = view.printed before ∨
    view.printed after = view.printed before ++ text

end View

section Stages

variable {host : Host (StateM State)} {view : View State host.Handle} {Value Result : Type}

theorem run_bind (action : StateM State Value) (next : Value → StateM State Result)
    (state : State) :
    (action >>= next).run state = (next (action.run state).1).run (action.run state).2 :=
  rfl

theorem View.Takes.behind {text : String} {before middle after : State}
    (takes : view.Takes text middle after) (untouched : view.Untouched before middle) :
    view.Takes text before after := by
  refine ⟨takes.system.trans untouched.system, ?_⟩
  rw [← untouched.printed]
  exact takes.printed

end Stages

/-! A run of a command that reads a source. -/

section Runs

variable {host : Host (StateM State)} {view : View State host.Handle}

end Runs

namespace World

def view : View World Sink where
  system := World.system
  input := World.input
  printed := World.output
  place? := Sink.place?
  isDevice path := (Sink.device? path).isSome || path == "/dev/stdin"

end World

end SourceAtlas.CommandLine
