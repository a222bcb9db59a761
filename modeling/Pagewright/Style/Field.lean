/-!
# Pagewright.Style.Field

The fields of style data and the values that the fields with a fixed choice may have.
-/

namespace Pagewright.Style

/-- The sides of a box, in the order in which they are written. -/
def sides : List String := ["top", "right", "bottom", "left"]

/-- The fields that hold a whole number. -/
def numericFields : List String :=
  [ "margin_top", "margin_right", "margin_bottom", "margin_left", "padding_top", "padding_right",
    "padding_bottom", "padding_left", "text_size", "border_width", "border_radius", "shadow_x",
    "shadow_y", "shadow_blur", "shadow_spread" ]

/-- The numeric fields that may be negative. -/
def offsetFields : List String := ["shadow_x", "shadow_y"]

/-- The fields that hold a unit. -/
def unitFields : List String :=
  ["margin_unit", "padding_unit", "text_size_unit", "border_unit", "border_radius_unit"]

/-- The fields that hold a colour. -/
def colorFields : List String := ["bg_color", "text_color", "border_color", "shadow_color"]

/-- Alignments of text. -/
def textAligns : List String := ["left", "center", "right", "justify"]

/-- Weights of text. -/
def textWeights : List String := ["100", "200", "300", "400", "500", "600", "700", "800", "900"]

/-- Styles of borders. -/
def borderStyles : List String := ["none", "solid", "dashed", "dotted", "double"]

/-- Sizes of background images. -/
def backgroundSizes : List String := ["cover", "contain", "auto"]

/-- Places of background images. -/
def backgroundPositions : List String :=
  ["center center", "top center", "bottom center", "left center", "right center"]

/-- Repetitions of background images. -/
def backgroundRepeats : List String := ["no-repeat", "repeat", "repeat-x", "repeat-y"]

/-- The fields with a fixed choice of values. -/
def choiceFields : List (String × List String) :=
  [ ("text_align", textAligns), ("text_weight", textWeights), ("border_style", borderStyles),
    ("bg_size", backgroundSizes), ("bg_position", backgroundPositions),
    ("bg_repeat", backgroundRepeats) ]

/-- The fields that hold a length. -/
def dimensionFields : List String := ["max_width", "min_height"]

/-- The fields that hold a truth value. -/
def flagFields : List String := ["margin_linked", "padding_linked"]

end Pagewright.Style
