import ScadManual.Render.Options

/-!
# The renderer's command line

The arguments that make the renderer draw what the options ask for.
-/

namespace ScadManual.Render

/-- One call of the renderer. -/
structure Invocation where
  scriptFile : String
  outputFile : String
  options : Options
  autoCenter : Bool
  viewAll : Bool
  hardWarnings : Bool
  testOnly : Bool
deriving DecidableEq, Repr

namespace Invocation

/-- The parts of the view that are shown, by name. -/
def views (o : Options) : List String :=
  (if o.axes then ["axes"] else []) ++ (if o.scales then ["scales"] else []) ++
    (if o.edges then ["edges"] else [])

/-- The arguments about the image. -/
def imageArgs (inv : Invocation) (mode : Mode) (animate : Option Nat) : List String :=
  let o := inv.options
  ["--imgsize=" ++ toString o.width ++ "," ++ toString o.height] ++
    (match o.camera with
      | some camera => ["--camera=" ++ String.intercalate "," (camera.map toString)]
      | none => []) ++
    (if inv.autoCenter then ["--autocenter"] else []) ++
    (if inv.viewAll then ["--viewall"] else []) ++
    ["--projection=" ++ if o.orthographic then "o" else "p"] ++
    ["--colorscheme=" ++ o.colorScheme] ++
    (if (views o).isEmpty then [] else ["--view=" ++ String.intercalate "," (views o)]) ++
    (match mode with
      | .render => ["--render"]
      | .thrownTogether => ["--preview=throwntogether"]
      | .preview => ["--preview"]
      | .testOnly => []) ++
    (match animate with
      | some frames => ["--animate=" ++ toString frames]
      | none => [])

/-- The arguments of a call that writes `output`, of an animation when `animate` gives its frames.  A call
that only tests says nothing about the image. -/
def args (inv : Invocation) (output : String) (animate : Option Nat) : List String :=
  let mode := if inv.testOnly then Mode.testOnly else inv.options.mode
  ["-o", output] ++ (if mode = .testOnly then [] else inv.imageArgs mode animate) ++
    (if inv.hardWarnings then ["--hardwarnings"] else []) ++ [inv.scriptFile]

end Invocation

end ScadManual.Render
