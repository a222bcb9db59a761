import Pagewright.Element.Basic

/-!
# Pagewright.Element.Instance

Instances: the places where elements stand on a page, each with its own data and style; and pages,
which are lists of instances with a layout and styles of their own.
-/

namespace Pagewright

/-- An element at its place on a page.  The slot data is an object unless it was damaged. -/
structure Instance where
  id : Value
  slug : String
  slotData : Value
  styleData : Members
  sortOrder : Int
  deriving Inhabited

/-- A page. -/
structure Page where
  instances : List Instance
  layout : Value
  theme : Value
  style : Members

/-- The members of a column; what is no object has none. -/
def columnMembers (v : Value) : Members := v.members?.getD []

namespace Instance

/-- The instance of a record. -/
def ofValue (record : Value) : Except Fault Instance := do
  let slotData ← decodeColumn
    ((← record.first? ["slotData", "slot_data", "slot_data_json"]).getD (.obj []))
  let styleData ← decodeColumn
    ((← record.first? ["styleData", "style_data", "style_data_json"]).getD (.obj []))
  let id ← record.first? ["instanceId", "instance_id", "id"]
  let slug ← record.memberText "slug" ""
  let sortOrder ← ((← record.first? ["sortOrder", "sort_order"]).getD (.int 0)).integerOr 0
  return ⟨id.getD (.int 0), slug, slotData, columnMembers styleData, sortOrder⟩

/-- The record of an instance. -/
def toMembers (i : Instance) : Members :=
  [ ("instanceId", i.id), ("slug", .str i.slug), ("slotData", i.slotData),
    ("styleData", .obj i.styleData), ("sortOrder", .int i.sortOrder) ]

end Instance

namespace Page

/-- The records that a datum lists: the objects among the items of a list.  Texts and objects list
none, and so does what does not stand for true. -/
def listedRecords (v : Value) : Except Fault (List Value) :=
  match v with
  | .list items => .ok (items.filter (·.members?.isSome))
  | .str _ => .ok []
  | .obj _ => .ok []
  | v => if v.isTruthy then .error .wrongKind else .ok []

/-- The page of a record. -/
def ofValue (record : Value) : Except Fault Page := do
  let listed := (← record.first? ["instances", "elements"]).getD (.list [])
  let style ← decodeColumn ((← record.first? ["pageStyle", "page_style"]).getD (.obj []))
  let instances ← (← listedRecords listed).mapM Instance.ofValue
  let layout ← record.first? ["layoutId", "layout_id", "layout"]
  let theme ← record.first? ["themeOverride", "theme_override"]
  return ⟨instances, layout.getD .null, theme.getD .null, columnMembers style⟩

/-- The instances in the order in which they are shown; equal places keep the order of the record. -/
def ordered (page : Page) : List Instance :=
  page.instances.mergeSort fun a b => a.sortOrder ≤ b.sortOrder

end Page

end Pagewright
