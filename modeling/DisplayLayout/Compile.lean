import DisplayLayout.Artifact.DisplayLambda
import DisplayLayout.Artifact.PageTree
import DisplayLayout.Artifact.ServiceCall

/-!
# Compilation

A project and a configuration make an artifact. The declarations come first, as
every identifier has to be claimed before it is used; the drawing protocols
declare nothing.
-/

namespace DisplayLayout

variable [Qr.Encoder]

/-- An artifact, and what was reported while it was made. -/
structure Compilation where
  artifact : Artifact
  events : List Event

namespace Compilation

/-- Puts a run together from the visited pages. -/
def assemble {α : Type} (config : Config) (sensors : Nat) (before : List Event)
    (pages : List (VisitedPage α)) (write : Generation → String × Json) : Compilation :=
  let g := registries config pages
  let stats := Stats.of pages sensors g
  let (text, document) := write g
  { artifact := ⟨config.mode, text, document, stats⟩
    events := before ++ pages.flatMap (VisitedPage.events config.mode) ++ [stats.event config.mode] }

/-- A run that declares what the widgets ask for. -/
def withDeclarations {α : Type} (p : Project) (config : Config) (form : Form α)
    (write : Declared → Generation → List (VisitedPage α) → String × Json) : Compilation :=
  let d := p.declare config.mode config.device
  let pages := p.visit form config
  assemble config d.sensors.length (p.requestEvents config.mode config.device) pages
    fun g => write d g pages

/-- A run for a drawing protocol. -/
def withoutDeclarations (p : Project) (config : Config) (protocol : Protocol) : Compilation :=
  let pages := p.visit (ServiceCall.form protocol) config
  assemble config 0 [] pages fun _ => ServiceCall.write protocol config.envelope pages

end Compilation

/-- Compiles a project. -/
def Project.compile (p : Project) (config : Config) : Compilation :=
  match config.mode with
  | .direct => .withDeclarations p config DisplayLambda.form DisplayLambda.write
  | .retained => .withDeclarations p config PageTree.form PageTree.write
  | .protocolA => .withoutDeclarations p config .a
  | .protocolB => .withoutDeclarations p config .b

end DisplayLayout
