import Widgetry.Widget.Basic

/-!
# Nesting

The values among the options of a chart, and the forms inside each other, may be nested as deep as
one likes. What writes a descriptor follows the nesting, and so does what reads one, and each gives
up at some depth. When they do is a parameter (`DepthGuard`).
-/

namespace Widgetry

/-! ## How deep a widget is nested -/

/-- Only the options of a chart are nested. -/
def Chart.nesting (w : Chart) : Nat := Json.membersHeight (w.options.getD [])

mutual

/-- A form is nested one deeper than its fields. -/
def Widget.nesting : Widget → Nat
  | .form _ _ fields => Widget.listNesting fields + 1
  | .chart w => w.nesting
  | _ => 0

/-- The nesting of the deepest widget. -/
def Widget.listNesting : List Widget → Nat
  | [] => 0
  | w :: rest => Nat.max w.nesting (Widget.listNesting rest)

end

mutual

/-- How many forms lie inside each other. -/
def Widget.forms : Widget → Nat
  | .form _ _ fields => Widget.listForms fields + 1
  | _ => 0

def Widget.listForms : List Widget → Nat
  | [] => 0
  | w :: rest => Nat.max w.forms (Widget.listForms rest)

end

/-! ## What is written -/

/-- What is written as one descriptor. -/
inductive Described where
  | widget (w : Widget)
  | form (p : FormPreview)
  | result (r : ParseResult)
  | streaming (r : StreamingResult)

namespace Described

/-- The widgets that are written with it. -/
def widgets : Described → List Widget
  | widget w => [w]
  | form p => p.fields
  | result r => r.widget.toList
  | streaming r =>
    match r.widget with
    | some (.widget w) => [w]
    | some (.form p) => p.fields
    | _ => []

def nesting (d : Described) : Nat := Widget.listNesting d.widgets

def forms (d : Described) : Nat := Widget.listForms d.widgets

end Described

/-! ## Guards -/

/-- When nesting is too deep. -/
class DepthGuard where
  /-- Can this be written? -/
  admits : Described → Bool
  /-- The most forms that may lie inside each other in what is read. -/
  maxForms : Nat

namespace DepthGuard

/-- The deepest nesting that the guard that runs lets pass. -/
def deepest : Nat := 255

/-- The nesting of a widget where a preview could stand as well, which makes a chart one deeper. -/
def nestingInPreview : Widget → Nat
  | .chart w => w.nesting + 1
  | w => w.nesting

/-- The nesting as the guard that runs counts it. -/
def counted : Described → Nat
  | .widget w => w.nesting
  | d => (d.widgets.map nestingInPreview).foldr Nat.max 0

/-- The guard that runs. -/
instance standard : DepthGuard where
  admits d := counted d ≤ deepest
  maxForms := deepest

end DepthGuard

end Widgetry
