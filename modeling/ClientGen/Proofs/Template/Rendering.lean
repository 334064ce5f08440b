import ClientGen.Template.Render
import ClientGen.Template.Standard

namespace ClientGen.Template

-- In the scope `before` the nodes write a text, whatever was written before, and leave the scope `after`.
def Renders (before : Scope) (nodes : List Node) (text : String) (after : Scope) : Prop :=
  ∀ out, renderAll? ⟨out, before⟩ nodes = some ⟨out ++ text, after⟩

variable {scope before middle after : Scope} {nodes rest : List Node} {node : Node} {s t : String}

theorem render?_of_renders {context : Fields} (renders : Renders ⟨[], [], context⟩ nodes s after) :
    render? nodes context = some s := by
  rw [render?, renders ""]
  exact congrArg some String.empty_append

theorem renderAll?_append (state : State) (nodes rest : List Node) :
    renderAll? state (nodes ++ rest) = (renderAll? state nodes).bind fun s => renderAll? s rest := by
  induction nodes generalizing state with
  | nil => rfl
  | cons node others ih =>
    simp only [List.cons_append, renderAll?]
    cases Node.render? state node with
    | none => rfl
    | some state => exact ih state

namespace Renders

theorem append (first : Renders before nodes s middle) (second : Renders middle rest t after) :
    Renders before (nodes ++ rest) (s ++ t) after := by
  intro out
  rw [renderAll?_append, first out, Option.bind_some, second, String.append_assoc]

theorem silent (first : Renders before nodes "" middle) (second : Renders middle rest t after) :
    Renders before (nodes ++ rest) t after := by
  have both := append first second
  rwa [String.empty_append] at both

theorem part {texts : List String} (first : Renders before nodes s middle)
    (second : Renders middle rest (String.join texts) after) :
    Renders before (nodes ++ rest) (String.join (s :: texts)) after := by
  rw [String.join_cons]
  exact append first second

theorem step {texts : List String} (first : Renders before [node] s middle)
    (second : Renders middle rest (String.join texts) after) :
    Renders before (node :: rest) (String.join (s :: texts)) after := part first second

theorem nothing (scope : Scope) : Renders scope [] "" scope := by
  intro out
  rw [String.append_empty]
  rfl

theorem done : Renders scope [] (String.join []) scope := nothing scope

theorem text : Renders scope [.text s] s scope := fun _ => rfl

theorem print {e : Expr} {v : Json} (found : Expr.value? scope e = some v) :
    Renders scope [.print e] (valueText v) scope := by
  intro out
  simp only [renderAll?, Node.render?, found, Option.map_some]

theorem set {name : String} {e : Expr} {v : Json} (found : Expr.value? scope e = some v) :
    Renders scope [.set name false e] "" (scope.assign name v) := by
  intro out
  simp only [renderAll?, Node.render?, found, Option.map_some, String.append_empty]
  rfl

theorem setGlobal {name : String} {e : Expr} {v : Json} (found : Expr.value? scope e = some v) :
    Renders scope [.set name true e] "" (scope.assignGlobal name v) := by
  intro out
  simp only [renderAll?, Node.render?, found, Option.map_some, String.append_empty]
  rfl

section Conditions

variable {condition : Expr} {body other : List Node} {branches : List (Expr × List Node)}

theorem taken (holds : Expr.holds? before condition = some true)
    (inner : Renders before body s after) :
    Renders before [.cond ((condition, body) :: branches) other] s after := by
  intro out
  simp only [renderAll?, Node.render?, renderBranch?, holds, inner out, Option.map_some]

theorem passed (fails : Expr.holds? before condition = some false)
    (later : Renders before [.cond branches other] s after) :
    Renders before [.cond ((condition, body) :: branches) other] s after := by
  intro out
  rw [← later out]
  simp only [renderAll?, Node.render?, renderBranch?, fails]

theorem otherwise (inner : Renders before other s after) : Renders before [.cond [] other] s after := by
  intro out
  simp only [renderAll?, Node.render?, renderBranch?, inner out]

theorem given {b : Bool} (decided : Expr.holds? scope condition = some b)
    (inner : b = true → Renders scope body s scope) :
    Renders scope [Standard.given condition body] (if b then s else "") scope := by
  cases b with
  | true => exact taken decided (inner rfl)
  | false => exact passed decided (otherwise (nothing scope))

end Conditions

end Renders

-- A turn of a loop over a list before its body has assigned anything.
def turn (name : String) (item : Json) (position count : Nat) : Frame :=
  { keyName := none, itemName := name, key := "", item, position, count, locals := [] }

def Scope.inTurn (scope : Scope) (name : String) (item : Json) (position count : Nat) : Scope :=
  { scope with loops := turn name item position count :: scope.loops }

theorem get?_inTurn {name : String} {item v : Json} {keys : List String} {position count : Nat}
    (free : name ≠ "loop") (found : item.descend? keys = some v) :
    (scope.inTurn name item position count).get? name keys = some v := by
  have own : (turn name item position count).own? name keys = some v := by
    simp [Frame.own?, turn, free, found]
  simp only [Scope.get?, Scope.inTurn, List.findSome?_cons, Frame.lookup?, own]
  rfl

def Scope.withGlobals (scope : Scope) (globals : Fields) : Scope := { scope with globals }

section Loops

variable {α : Type} {name : String} {container : Expr} {body : List Node} {items : List α}
  {toJson : α → Json} {write : Fields → α → String} {change : Fields → α → Fields}

-- What the turns write one after another, each with the assignments that the one before has left.
def written (write : Fields → α → String) (change : Fields → α → Fields) : Fields → List α → String
  | _, [] => ""
  | globals, x :: rest => write globals x ++ written write change (change globals x) rest

theorem written_same (write : α → String) (globals : Fields) :
    written (fun _ => write) change globals items = String.join (items.map write) := by
  induction items generalizing globals with
  | nil => rfl
  | cons x rest ih => rw [written, ih, List.map_cons, String.join_cons]

-- One turn of a loop: it writes what it should, changes the globals as it should, and keeps an invariant
-- of the globals. What it assigns locally stays in its frame.
def TurnRenders (scope : Scope) (body : List Node) (name : String) (toJson : α → Json)
    (write : Fields → α → String) (change : Fields → α → Fields) (keeps : Fields → Prop) (x : α) : Prop :=
  ∀ position count globals, keeps globals → keeps (change globals x) ∧ ∃ frame,
    Renders ((scope.withGlobals globals).inTurn name (toJson x) position count) body (write globals x)
      { loops := frame :: scope.loops, globals := change globals x, context := scope.context }

theorem turns_render {keeps : Fields → Prop} (count : Nat)
    (each : ∀ x ∈ items, TurnRenders scope body name toJson write change keeps x)
    (position : Nat) (state : State) (same : state.scope.context = scope.context)
    (kept : keeps state.scope.globals) :
    ∃ loops, (((items.map fun x => ("", toJson x)).zipIdx position).map fun ((key, item), position) =>
        { keyName := none, itemName := name, key, item, position, count, locals := [] : Frame }).foldl
      (fun s frame => s.bind fun s =>
        renderAll? { s with scope := { s.scope with loops := frame :: scope.loops } } body)
      (some state) =
    some ⟨state.out ++ written write change state.scope.globals items,
      ⟨loops, items.foldl change state.scope.globals, scope.context⟩⟩ := by
  induction items generalizing position state with
  | nil =>
    obtain ⟨out, loops, globals, context⟩ := state
    cases same
    exact ⟨loops, congrArg some (by simp [written])⟩
  | cons x rest ih =>
    obtain ⟨out, loops, globals, context⟩ := state
    cases same
    obtain ⟨still, frame, first⟩ := each x List.mem_cons_self position count globals kept
    have tail := fun y (member : y ∈ rest) => each y (List.mem_cons_of_mem _ member)
    obtain ⟨final, later⟩ := ih tail (position + 1)
      ⟨out ++ write globals x, ⟨frame :: scope.loops, change globals x, scope.context⟩⟩ rfl still
    refine ⟨final, ?_⟩
    simp only [List.map_cons, List.zipIdx_cons, List.foldl_cons, Option.bind_some]
    have turned := first out
    simp only [Scope.inTurn, Scope.withGlobals, turn] at turned
    rw [turned, later, written, String.append_assoc]

theorem Renders.fold {keeps : Fields → Prop}
    (list : Expr.value? scope container = some (.arr (items.map toJson)))
    (plain : isContainer container = true) (kept : keeps scope.globals)
    (each : ∀ x ∈ items, TurnRenders scope body name toJson write change keeps x) :
    Renders scope [Standard.each name container body] (written write change scope.globals items)
      (scope.withGlobals (items.foldl change scope.globals)) := by
  intro out
  cases items with
  | nil =>
    simp [renderAll?, Node.render?, Standard.each, plain, list, turns?, written, Scope.withGlobals]
  | cons x rest =>
    obtain ⟨loops, run⟩ := turns_render (x :: rest).length each 0 ⟨out, scope⟩ rfl kept
    simp only [renderAll?, Node.render?, Standard.each, plain, list, turns?, Option.bind_some,
      Bool.not_true, Option.isSome_none, frames, List.map_cons, Bool.false_eq_true, if_false,
      List.map_map, Function.comp_def, List.length_cons, List.length_map] at run ⊢
    rw [run]
    rfl

theorem Renders.foldSilent {keeps : Fields → Prop}
    (list : Expr.value? scope container = some (.arr (items.map toJson)))
    (plain : isContainer container = true) (kept : keeps scope.globals)
    (each : ∀ x ∈ items, TurnRenders scope body name toJson (fun _ _ => "") change keeps x) :
    Renders scope [Standard.each name container body] ""
      (scope.withGlobals (items.foldl change scope.globals)) := by
  have nothing : ∀ globals, written (fun _ _ => "") change globals items = "" := by
    clear list each
    induction items with
    | nil => exact fun _ => rfl
    | cons x rest ih => exact fun globals => by rw [written, ih, String.empty_append]
  exact nothing scope.globals ▸ fold list plain kept each

-- A loop that assigns nothing beyond its turns. What a turn assigns locally ends with it.
theorem Renders.eachAssigning {write : α → String}
    (list : Expr.value? scope container = some (.arr (items.map toJson)))
    (plain : isContainer container = true)
    (each : ∀ x ∈ items, ∀ position count, ∃ frame,
      Renders (scope.inTurn name (toJson x) position count) body (write x)
        { scope with loops := frame :: scope.loops }) :
    Renders scope [Standard.each name container body] (String.join (items.map write)) scope := by
  have turns : ∀ x ∈ items, TurnRenders scope body name toJson (fun _ => write)
      (fun globals _ => globals) (scope.globals = ·) x := by
    rintro x member position count globals rfl
    exact ⟨rfl, each x member position count⟩
  have run := fold list plain rfl turns
  have unchanged : items.foldl (fun globals _ => globals) scope.globals = scope.globals := by
    clear list each turns run
    induction items with
    | nil => rfl
    | cons x rest ih => exact ih
  rw [written_same, unchanged] at run
  exact run

theorem Renders.each {write : α → String}
    (list : Expr.value? scope container = some (.arr (items.map toJson)))
    (plain : isContainer container = true)
    (each : ∀ x ∈ items, ∀ position count,
      Renders (scope.inTurn name (toJson x) position count) body (write x)
        (scope.inTurn name (toJson x) position count)) :
    Renders scope [Standard.each name container body] (String.join (items.map write)) scope :=
  eachAssigning list plain fun x member position count => ⟨_, each x member position count⟩

end Loops

end ClientGen.Template
