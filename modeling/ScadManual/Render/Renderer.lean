import ScadManual.Disk.Basic
import ScadManual.Error
import ScadManual.Render.Command
import ScadManual.Render.Output

/-!
# Renderers

A renderer answers an invocation by writing the output file and saying how it went.  It may keep a state of
its own between calls.  An error means that it could not be run at all; a renderer that ran and failed says
so in its output.
-/

namespace ScadManual.Render

/-- What a call of a renderer led to. -/
structure Reply (σ : Type) where
  result : Except Error Output
  state : σ
  disk : Disk

/-- A renderer with a state. -/
structure Renderer (σ : Type) where
  render : Invocation → σ → Disk → Reply σ

end ScadManual.Render
