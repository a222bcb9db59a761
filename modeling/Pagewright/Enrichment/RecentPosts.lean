import Pagewright.Enrichment.IsoDate
import Pagewright.Enrichment.Registry
import Pagewright.Settings
import Pagewright.Text.Blank
import Pagewright.Text.Slice
import Pagewright.Text.Split
import Pagewright.Value.Display
import Pagewright.Value.Field

/-!
# Pagewright.Enrichment.RecentPosts

The list of recent posts.  The provider asks a source for as many posts as the slot data says, if that
is one of a few numbers, and puts the posts into the slot data in the form in which the element shows
them.
-/

namespace Pagewright.Enrichment

open Text

/-- Where posts come from: asked for a number of posts, it lists posts or fails. -/
abbrev PostSource := Int → Except Fault (List Value)

namespace RecentPosts

/-- The numbers of posts that can be asked for. -/
def counts : List Int := [3, 6, 9, 12]

/-- The number of characters of an excerpt. -/
def excerptLength : Nat := 160

/-- The number of posts that a datum asks for; if it does not ask for one of the possible numbers, the
number of the settings. -/
def count (settings : Settings) (v : Value) : Except Fault Int :=
  let default := settings.recentPostsDefaultCount
  match v with
  | .null => .ok default
  | .bool _ => .ok default
  | v =>
    match v.toInteger with
    | .ok n => .ok (if counts.contains n then n else default)
    | .error .overflow => .error .overflow
    | .error _ => .ok default

/-! ## Posts -/

/-- A text without its tags, that is without everything from an opening angle bracket to the next
closing one; the first `skip` characters belong to a tag. -/
def dropTagsFrom : (skip : Nat) → List Char → List Char
  | _, [] => []
  | skip + 1, _ :: cs => dropTagsFrom skip cs
  | 0, c :: cs =>
    if c = '<' then
      match cut? '>' cs with
      | some (inside, _) => dropTagsFrom (inside.length + 1) cs
      | none => c :: dropTagsFrom 0 cs
    else c :: dropTagsFrom 0 cs

/-- A text without its tags. -/
def dropTags (cs : List Char) : List Char := dropTagsFrom 0 cs

/-- The excerpt of a post: its own, or the beginning of its body without tags. -/
def excerpt (post : Members) : Value :=
  (post.get "excerpt").orElse <|
    .str (String.ofList ((dropTags ((post.get "body").orElse (.str "")).display.toList).take
      excerptLength))

/-- The date of a datum as readers see it; empty if it has none. -/
def dateText : Value → String
  | .str s =>
    let cs := (trim s.toList).flatMap fun c => if c = 'Z' then "+00:00".toList else [c]
    ((IsoDate.read? (String.ofList cs)).map Date.text).getD ""
  | _ => ""

/-- A post as the element shows it. -/
def shown (post : Members) : Value :=
  let member (key : String) := (post.get key).orElse (.str "")
  .obj
    [ ("title", member "title"), ("slug", member "slug"),
      ("featured_image", member "featured_image"), ("excerpt", excerpt post),
      ("formatted_date",
        .str (dateText ((post.get "published_at").orElse (post.get "created_at")))),
      ("author_name", (post.get "author_name").orElse (.str "Unknown")) ]

/-- The posts among what a source lists. -/
def posts (listed : List Value) : List Members := listed.filterMap Value.members?

/-! ## The provider -/

/-- Slot data with the recent posts put in. -/
def provider (settings : Settings) (source : PostSource) : Provider := fun data =>
  match count settings (data.get "count") with
  | .error f => ⟨[], .error (.fault f)⟩
  | .ok n =>
    ⟨[n],
      match source n with
      | .error f => .error (.fault f)
      | .ok listed =>
        .ok (.obj (data.set "posts" (.list (takeSigned n ((posts listed).map shown)))))⟩

/-- The source without posts. -/
def noPosts : PostSource := fun _ => .ok []

end RecentPosts

/-- The registry with the list of recent posts. -/
def Registry.usual (settings : Settings) (source : PostSource) : Registry :=
  Registry.empty.register "recent-posts" (RecentPosts.provider settings source)

end Pagewright.Enrichment
