/-!
# Pagewright.Settings

The limits and names that a rendering depends on.  They are fixed while it runs.
-/

namespace Pagewright

/-- The parameters of a rendering and their usual values. -/
structure Settings where
  /-- Least value of a numeric style, in pixels. -/
  numericMin : Int := 0
  /-- Greatest value of a numeric style, in pixels. -/
  numericMax : Int := 500
  /-- Greatest distance of a shadow, in either direction, in pixels. -/
  offsetLimit : Int := 500
  /-- Number of characters of custom CSS that are kept. -/
  customCssMaxLength : Int := 10000
  /-- Class of an element's container, and what the classes of single elements start with. -/
  elementClassPrefix : String := "lcms-el"
  /-- Layout of a page that names none. -/
  defaultLayout : String := "default"
  /-- Number of posts that are shown when no count is given. -/
  recentPostsDefaultCount : Int := 6
  /-- What the classes of a compiled document start with. -/
  penClassPrefix : String := "pen-"
  /-- Greatest depth of references within references. -/
  maxRefDepth : Int := 10
  /-- Level of the log of the command line. -/
  logLevel : String := "INFO"
  deriving DecidableEq

end Pagewright
