import XdotViewer.Geometry.Scalar

/-! # Points of the plane -/

namespace XdotViewer

structure Point (α : Type) where
  x : α
  y : α
deriving BEq, DecidableEq, Repr

namespace Point

variable {α : Type} [Scalar α]

def offset (p : Point α) (dx dy : α) : Point α :=
  ⟨p.x + dx, p.y + dy⟩

def distance (p q : Point α) : α :=
  let dx := p.x - q.x
  let dy := p.y - q.y
  Scalar.sqrt (dx * dx + dy * dy)

/-- The point that divides the way from `p` to `q` at `t`; the midpoint is found by halving. -/
def between (t : α) (p q : Point α) : Point α :=
  if t == 0.5 then ⟨(p.x + q.x) / 2.0, (p.y + q.y) / 2.0⟩
  else
    let s := 1.0 - t
    ⟨p.x * s + q.x * t, p.y * s + q.y * t⟩

end Point
end XdotViewer
