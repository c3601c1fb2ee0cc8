/-
# Rendering texts, templates and components

A text is rendered at a layer: `0` for a text rendered for itself, one more for
each component around it.  A component whose layer would be above `maxLayer` is
refused, so components that include one another come to an end, and
`renderToDepth` is a recursion on the layers that are left.
-/

import BracketTemplate.Loader
import BracketTemplate.Render.Machine
import BracketTemplate.Settings

namespace BracketTemplate

namespace Render

/-- The deepest layer at which a component may be rendered. -/
def maxLayer : Nat := 5

/-- Loads the source at a path and renders it, or fails as the loader does. -/
def loadThen (loader : Loader) (layer : Nat) (path : String) (context : Context)
    (render : String → Run) : Run :=
  let loaded : Event := ⟨layer, .loaded path⟩
  match loader path with
  | .ok text => (render text).after [loaded]
  | .error e => ⟨.error e, context, [loaded]⟩

/-- Refuses a component that would be rendered too deep. -/
def refuseComponent (layer : Nat) : Inclusion := fun name context =>
  ⟨.error (.excessiveRecursion name (layer + 1) maxLayer), context, []⟩

/-- Renders a text at a layer, with components up to `depth` layers deeper. -/
def renderToDepth (settings : Settings) (loader : Loader) :
    (depth layer : Nat) → String → Context → Run
  | 0, layer, text, context =>
    Machine.run (refuseComponent layer) layer (.ofText text) context
  | depth + 1, layer, text, context =>
    let inclusion : Inclusion := fun name context =>
      let path := settings.componentPath name
      (loadThen loader layer path context fun source =>
        renderToDepth settings loader depth (layer + 1) source context).after
          [⟨layer, .included name path⟩]
    Machine.run inclusion layer (.ofText text) context

/-- Renders a text at a layer. -/
def renderAt (settings : Settings) (loader : Loader) (layer : Nat) (text : String)
    (context : Context) : Run :=
  renderToDepth settings loader (maxLayer - layer) layer text context

/-- Renders a named template at a layer. -/
def renderNamedAt (settings : Settings) (loader : Loader) (layer : Nat) (name : String)
    (context : Context) : Run :=
  loadThen loader layer (settings.templatePath name) context fun text =>
    renderAt settings loader layer text context

/-- Renders a text for itself. -/
def renderText (settings : Settings) (loader : Loader) (text : String) (context : Context) : Run :=
  renderAt settings loader 0 text context

/-- Renders a named template for itself. -/
def renderNamed (settings : Settings) (loader : Loader) (name : String) (context : Context) : Run :=
  renderNamedAt settings loader 0 name context

end Render

end BracketTemplate
