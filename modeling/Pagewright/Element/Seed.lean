import Pagewright.Element.Catalogue

/-!
# Pagewright.Element.Seed

The elements that a new site begins with.
-/

namespace Pagewright.Seed

open Slot

private def textLines (ls : List String) : String := String.intercalate "\n" ls

/-- A slot that is not required and has no default. -/
def slot (key label type : String) : Definition := ⟨key, label, type, false, .null, [], []⟩

/-- The template of `hero-section`. -/
def heroSectionHtml : String :=
  textLines
    [ "<section class=\"hero-inner\" " ++
        "\x7b\x7b#background_image\x7d\x7dstyle=\"background-image:url('\x7b\x7bbackground_image\x7d\x7d')\"\x7b\x7b/background_image\x7d\x7d>",
      "    <div class=\"hero-content hero-align-\x7b\x7balignment\x7d\x7d\">",
      "        <h2>\x7b\x7btitle\x7d\x7d</h2>",
      "        \x7b\x7b\x7bdescription\x7d\x7d\x7d",
      "        \x7b\x7b#cta.url\x7d\x7d",
      "        <a href=\"\x7b\x7bcta.url\x7d\x7d\" target=\"\x7b\x7bcta.target\x7d\x7d\" " ++
        "class=\"hero-cta\">\x7b\x7bcta.text\x7d\x7d</a>",
      "        \x7b\x7b/cta.url\x7d\x7d",
      "    </div>",
      "</section>" ]

/-- The CSS of `hero-section`. -/
def heroSectionCss : String :=
  textLines
    [ ".lcms-el-hero-section \x7b margin: 0 calc(-50vw + 50%); width: 100vw; \x7d",
      ".lcms-el-hero-section .hero-inner \x7b",
      "    padding: 4rem 2rem;",
      "    background-size: cover;",
      "    background-position: center;",
      "    background-color: var(--color-bg-alt, #f8fafc);",
      "\x7d",
      ".lcms-el-hero-section .hero-content \x7b max-width: var(--container-width, 1100px); " ++
        "margin: 0 auto; \x7d",
      ".lcms-el-hero-section .hero-align-center \x7b text-align: center; \x7d",
      ".lcms-el-hero-section .hero-align-left \x7b text-align: left; \x7d",
      ".lcms-el-hero-section .hero-align-right \x7b text-align: right; \x7d",
      ".lcms-el-hero-section h2 \x7b font-size: 2.5rem; margin-bottom: 1rem; color: " ++
        "var(--color-text, #1e293b); \x7d",
      ".lcms-el-hero-section .hero-cta \x7b",
      "    display: inline-block;",
      "    padding: 0.75rem 2rem;",
      "    background: var(--color-primary, #2563eb);",
      "    color: #fff;",
      "    text-decoration: none;",
      "    border-radius: 6px;",
      "    margin-top: 1rem;",
      "    font-weight: 600;",
      "\x7d",
      ".lcms-el-hero-section .hero-cta:hover \x7b background: var(--color-primary-hover, " ++
        "#1d4ed8); \x7d" ]

/-- Full-width hero banner with headline, description, and call-to-action button. -/
def heroSection : Element where
  id := 1
  slug := "hero-section"
  name := "Hero Section"
  html := heroSectionHtml
  css := heroSectionCss
  slots :=
    [ { slot "title" "Headline" "text" with
        required := true },
      slot "description" "Description" "richtext",
      slot "background_image" "Background Image" "image",
      { slot "cta" "CTA Button" "link" with
        default := .obj [("url", .str ""), ("text", .str "Learn More"), ("target", .str "_self")] },
      { slot "alignment" "Text Alignment" "select" with
        default := .str "center"
        options := ["left", "center", "right"] } ]
  version := 1
  active := true
  category := "hero"
  description :=
    "Full-width hero banner with headline, description, and call-to-action button."

/-- The template of `text-section`. -/
def textSectionHtml : String :=
  textLines
    [ "<section class=\"text-inner\">",
      "    \x7b\x7b#heading\x7d\x7d<h2>\x7b\x7bheading\x7d\x7d</h2>\x7b\x7b/heading\x7d\x7d",
      "    <div class=\"text-body\">\x7b\x7b\x7bbody\x7d\x7d\x7d</div>",
      "</section>" ]

/-- The CSS of `text-section`. -/
def textSectionCss : String :=
  textLines
    [ ".lcms-el-text-section .text-inner \x7b padding: 2rem 0; \x7d",
      ".lcms-el-text-section h2 \x7b margin-bottom: 1rem; font-size: 1.75rem; color: " ++
        "var(--color-text, #1e293b); \x7d",
      ".lcms-el-text-section .text-body \x7b line-height: 1.8; color: var(--color-text, " ++
        "#1e293b); \x7d" ]

/-- Simple section with an optional heading and rich text body. -/
def textSection : Element where
  id := 2
  slug := "text-section"
  name := "Text Section"
  html := textSectionHtml
  css := textSectionCss
  slots :=
    [ slot "heading" "Heading" "text",
      { slot "body" "Body" "richtext" with
        required := true } ]
  version := 1
  active := true
  category := "content"
  description :=
    "Simple section with an optional heading and rich text body."

/-- The template of `feature-grid`. -/
def featureGridHtml : String :=
  textLines
    [ "<section class=\"features-inner\">",
      "    \x7b\x7b#heading\x7d\x7d<h2>\x7b\x7bheading\x7d\x7d</h2>\x7b\x7b/heading\x7d\x7d",
      "    <div class=\"features-grid features-cols-\x7b\x7bcolumns\x7d\x7d\">",
      "        \x7b\x7b#features\x7d\x7d",
      "        <div class=\"feature-item\">",
      "            \x7b\x7b#icon\x7d\x7d<div " ++
        "class=\"feature-icon\">\x7b\x7bicon\x7d\x7d</div>\x7b\x7b/icon\x7d\x7d",
      "            <h3>\x7b\x7btitle\x7d\x7d</h3>",
      "            \x7b\x7b\x7bdescription\x7d\x7d\x7d",
      "        </div>",
      "        \x7b\x7b/features\x7d\x7d",
      "    </div>",
      "</section>" ]

/-- The CSS of `feature-grid`. -/
def featureGridCss : String :=
  textLines
    [ ".lcms-el-feature-grid .features-inner \x7b padding: 2rem 0; \x7d",
      ".lcms-el-feature-grid h2 \x7b text-align: center; margin-bottom: 2rem; font-size: " ++
        "1.75rem; \x7d",
      ".lcms-el-feature-grid .features-grid \x7b display: grid; gap: 2rem; \x7d",
      ".lcms-el-feature-grid .features-cols-2 \x7b grid-template-columns: repeat(2, 1fr); \x7d",
      ".lcms-el-feature-grid .features-cols-3 \x7b grid-template-columns: repeat(3, 1fr); \x7d",
      ".lcms-el-feature-grid .features-cols-4 \x7b grid-template-columns: repeat(4, 1fr); \x7d",
      "@media (max-width: 768px) \x7b",
      "    .lcms-el-feature-grid .features-grid \x7b grid-template-columns: 1fr; \x7d",
      "\x7d",
      ".lcms-el-feature-grid .feature-item \x7b",
      "    padding: 1.5rem;",
      "    border: 1px solid var(--color-border, #e2e8f0);",
      "    border-radius: 8px;",
      "    text-align: center;",
      "\x7d",
      ".lcms-el-feature-grid .feature-icon \x7b font-size: 2rem; margin-bottom: 0.75rem; \x7d",
      ".lcms-el-feature-grid .feature-item h3 \x7b margin-bottom: 0.5rem; font-size: 1.1rem; \x7d" ]

/-- Grid of feature items with icon, title, and description. -/
def featureGrid : Element where
  id := 3
  slug := "feature-grid"
  name := "Feature Grid"
  html := featureGridHtml
  css := featureGridCss
  slots :=
    [ slot "heading" "Section Heading" "text",
      { slot "columns" "Columns" "select" with
        default := .str "3"
        options := ["2", "3", "4"] },
      { slot "features" "Features" "list" with
        subSlots :=
        [ slot "icon" "Icon/Emoji" "text",
          slot "title" "Title" "text",
          slot "description" "Description" "richtext" ] } ]
  version := 1
  active := true
  category := "features"
  description :=
    "Grid of feature items with icon, title, and description."

/-- The template of `cta-banner`. -/
def ctaBannerHtml : String :=
  textLines
    [ "<section class=\"cta-inner\">",
      "    <h2>\x7b\x7btitle\x7d\x7d</h2>",
      "    \x7b\x7b\x7bdescription\x7d\x7d\x7d",
      "    \x7b\x7b#button.url\x7d\x7d",
      "    <a href=\"\x7b\x7bbutton.url\x7d\x7d\" target=\"\x7b\x7bbutton.target\x7d\x7d\" " ++
        "class=\"cta-button\">\x7b\x7bbutton.text\x7d\x7d</a>",
      "    \x7b\x7b/button.url\x7d\x7d",
      "</section>" ]

/-- The CSS of `cta-banner`. -/
def ctaBannerCss : String :=
  textLines
    [ ".lcms-el-cta-banner .cta-inner \x7b",
      "    padding: 3rem 2rem;",
      "    text-align: center;",
      "    background: var(--color-primary, #2563eb);",
      "    color: #fff;",
      "    border-radius: 8px;",
      "    margin: 2rem 0;",
      "\x7d",
      ".lcms-el-cta-banner h2 \x7b color: #fff; margin-bottom: 0.75rem; font-size: 1.75rem; \x7d",
      ".lcms-el-cta-banner .cta-inner p \x7b color: rgba(255,255,255,0.9); \x7d",
      ".lcms-el-cta-banner .cta-button \x7b",
      "    display: inline-block;",
      "    padding: 0.75rem 2rem;",
      "    background: #fff;",
      "    color: var(--color-primary, #2563eb);",
      "    text-decoration: none;",
      "    border-radius: 6px;",
      "    font-weight: 600;",
      "    margin-top: 1rem;",
      "\x7d" ]

/-- Call-to-action banner with title, description, and button. -/
def ctaBanner : Element where
  id := 4
  slug := "cta-banner"
  name := "CTA Banner"
  html := ctaBannerHtml
  css := ctaBannerCss
  slots :=
    [ { slot "title" "Title" "text" with
        required := true },
      slot "description" "Description" "richtext",
      { slot "button" "Button" "link" with
        required := true
        default := .obj [("url", .str ""), ("text", .str "Get Started"), ("target", .str "_self")] } ]
  version := 1
  active := true
  category := "cta"
  description :=
    "Call-to-action banner with title, description, and button."

/-- The template of `image-text`. -/
def imageTextHtml : String :=
  textLines
    [ "<section class=\"imgtext-inner imgtext-\x7b\x7bimage_position\x7d\x7d\">",
      "    <div class=\"imgtext-image\">",
      "        <img src=\"\x7b\x7bimage\x7d\x7d\" alt=\"\x7b\x7bimage_alt\x7d\x7d\">",
      "    </div>",
      "    <div class=\"imgtext-content\">",
      "        \x7b\x7b#heading\x7d\x7d<h2>\x7b\x7bheading\x7d\x7d</h2>\x7b\x7b/heading\x7d\x7d",
      "        \x7b\x7b\x7bbody\x7d\x7d\x7d",
      "    </div>",
      "</section>" ]

/-- The CSS of `image-text`. -/
def imageTextCss : String :=
  textLines
    [ ".lcms-el-image-text .imgtext-inner \x7b",
      "    display: grid;",
      "    grid-template-columns: 1fr 1fr;",
      "    gap: 2rem;",
      "    align-items: center;",
      "    padding: 2rem 0;",
      "\x7d",
      ".lcms-el-image-text .imgtext-right .imgtext-image \x7b order: 2; \x7d",
      ".lcms-el-image-text .imgtext-right .imgtext-content \x7b order: 1; \x7d",
      ".lcms-el-image-text img \x7b width: 100%; border-radius: 8px; object-fit: cover; \x7d",
      ".lcms-el-image-text h2 \x7b margin-bottom: 1rem; \x7d",
      "@media (max-width: 768px) \x7b",
      "    .lcms-el-image-text .imgtext-inner \x7b grid-template-columns: 1fr; \x7d",
      "    .lcms-el-image-text .imgtext-right .imgtext-image,",
      "    .lcms-el-image-text .imgtext-right .imgtext-content \x7b order: unset; \x7d",
      "\x7d" ]

/-- Side-by-side layout with image and text content. -/
def imageText : Element where
  id := 5
  slug := "image-text"
  name := "Image + Text"
  html := imageTextHtml
  css := imageTextCss
  slots :=
    [ { slot "image" "Image" "image" with
        required := true },
      slot "image_alt" "Image Alt Text" "text",
      slot "heading" "Heading" "text",
      { slot "body" "Body" "richtext" with
        required := true },
      { slot "image_position" "Image Position" "select" with
        default := .str "left"
        options := ["left", "right"] } ]
  version := 1
  active := true
  category := "content"
  description :=
    "Side-by-side layout with image and text content."

/-- The template of `testimonial-section`. -/
def testimonialSectionHtml : String :=
  textLines
    [ "<section class=\"testimonials-inner\">",
      "    \x7b\x7b#heading\x7d\x7d<h2>\x7b\x7bheading\x7d\x7d</h2>\x7b\x7b/heading\x7d\x7d",
      "    <div class=\"testimonials-grid\">",
      "        \x7b\x7b#testimonials\x7d\x7d",
      "        <blockquote class=\"testimonial-item\">",
      "            <div class=\"testimonial-quote\">\x7b\x7b\x7bquote\x7d\x7d\x7d</div>",
      "            <footer>",
      "                <strong>\x7b\x7bauthor\x7d\x7d</strong>",
      "                \x7b\x7b#role\x7d\x7d<span " ++
        "class=\"testimonial-role\">\x7b\x7brole\x7d\x7d</span>\x7b\x7b/role\x7d\x7d",
      "            </footer>",
      "        </blockquote>",
      "        \x7b\x7b/testimonials\x7d\x7d",
      "    </div>",
      "</section>" ]

/-- The CSS of `testimonial-section`. -/
def testimonialSectionCss : String :=
  textLines
    [ ".lcms-el-testimonial-section .testimonials-inner \x7b padding: 2rem 0; \x7d",
      ".lcms-el-testimonial-section h2 \x7b text-align: center; margin-bottom: 2rem; \x7d",
      ".lcms-el-testimonial-section .testimonials-grid \x7b",
      "    display: grid;",
      "    grid-template-columns: repeat(auto-fit, minmax(280px, 1fr));",
      "    gap: 1.5rem;",
      "\x7d",
      ".lcms-el-testimonial-section .testimonial-item \x7b",
      "    padding: 1.5rem;",
      "    border-left: 4px solid var(--color-primary, #2563eb);",
      "    background: var(--color-bg-alt, #f8fafc);",
      "    border-radius: 0 8px 8px 0;",
      "    margin: 0;",
      "\x7d",
      ".lcms-el-testimonial-section .testimonial-quote \x7b font-style: italic; " ++
        "margin-bottom: 1rem; line-height: 1.6; \x7d",
      ".lcms-el-testimonial-section .testimonial-role \x7b",
      "    display: block;",
      "    color: var(--color-text-muted, #64748b);",
      "    font-size: 0.9rem;",
      "\x7d" ]

/-- Section with customer testimonial quotes. -/
def testimonialSection : Element where
  id := 6
  slug := "testimonial-section"
  name := "Testimonials"
  html := testimonialSectionHtml
  css := testimonialSectionCss
  slots :=
    [ slot "heading" "Heading" "text",
      { slot "testimonials" "Testimonials" "list" with
        subSlots :=
        [ slot "quote" "Quote" "richtext",
          slot "author" "Author Name" "text",
          slot "role" "Author Role" "text" ] } ]
  version := 1
  active := true
  category := "testimonials"
  description :=
    "Section with customer testimonial quotes."

/-- The template of `faq-section`. -/
def faqSectionHtml : String :=
  textLines
    [ "<section class=\"faq-inner\">",
      "    \x7b\x7b#heading\x7d\x7d<h2>\x7b\x7bheading\x7d\x7d</h2>\x7b\x7b/heading\x7d\x7d",
      "    <div class=\"faq-list\">",
      "        \x7b\x7b#items\x7d\x7d",
      "        <details class=\"faq-item\">",
      "            <summary>\x7b\x7bquestion\x7d\x7d</summary>",
      "            <div class=\"faq-answer\">\x7b\x7b\x7banswer\x7d\x7d\x7d</div>",
      "        </details>",
      "        \x7b\x7b/items\x7d\x7d",
      "    </div>",
      "</section>" ]

/-- The CSS of `faq-section`. -/
def faqSectionCss : String :=
  textLines
    [ ".lcms-el-faq-section .faq-inner \x7b padding: 2rem 0; max-width: 800px; margin: 0 " ++
        "auto; \x7d",
      ".lcms-el-faq-section h2 \x7b text-align: center; margin-bottom: 2rem; \x7d",
      ".lcms-el-faq-section .faq-item \x7b",
      "    border: 1px solid var(--color-border, #e2e8f0);",
      "    border-radius: 6px;",
      "    margin-bottom: 0.75rem;",
      "    overflow: hidden;",
      "\x7d",
      ".lcms-el-faq-section summary \x7b",
      "    padding: 1rem 1.25rem;",
      "    cursor: pointer;",
      "    font-weight: 600;",
      "    background: var(--color-bg-alt, #f8fafc);",
      "    list-style: none;",
      "\x7d",
      ".lcms-el-faq-section summary::-webkit-details-marker \x7b display: none; \x7d",
      ".lcms-el-faq-section summary::before \x7b content: '+'; margin-right: 0.75rem; " ++
        "font-weight: bold; \x7d",
      ".lcms-el-faq-section details[open] summary::before \x7b content: '\\2212'; \x7d",
      ".lcms-el-faq-section .faq-answer \x7b padding: 1rem 1.25rem; line-height: 1.7; \x7d" ]

/-- Frequently asked questions with expandable answers. -/
def faqSection : Element where
  id := 7
  slug := "faq-section"
  name := "FAQ Section"
  html := faqSectionHtml
  css := faqSectionCss
  slots :=
    [ slot "heading" "Heading" "text",
      { slot "items" "FAQ Items" "list" with
        subSlots :=
        [ slot "question" "Question" "text",
          slot "answer" "Answer" "richtext" ] } ]
  version := 1
  active := true
  category := "content"
  description :=
    "Frequently asked questions with expandable answers."

/-- The template of `recent-posts`. -/
def recentPostsHtml : String :=
  textLines
    [ "<section class=\"recent-posts-inner\">",
      "    \x7b\x7b#heading\x7d\x7d<h2>\x7b\x7bheading\x7d\x7d</h2>\x7b\x7b/heading\x7d\x7d",
      "    \x7b\x7b^posts\x7d\x7d<p class=\"no-posts\">No posts published " ++
        "yet.</p>\x7b\x7b/posts\x7d\x7d",
      "    <div class=\"recent-posts-grid recent-posts-cols-\x7b\x7bcolumns\x7d\x7d\">",
      "        \x7b\x7b#posts\x7d\x7d",
      "        <article class=\"recent-post-card\">",
      "            \x7b\x7b#show_image\x7d\x7d\x7b\x7b#featured_image\x7d\x7d",
      "            <div class=\"recent-post-image\">",
      "                <a href=\"/blog/\x7b\x7bslug\x7d\x7d\"><img " ++
        "src=\"\x7b\x7bfeatured_image\x7d\x7d\" alt=\"\x7b\x7btitle\x7d\x7d\"></a>",
      "            </div>",
      "            \x7b\x7b/featured_image\x7d\x7d\x7b\x7b/show_image\x7d\x7d",
      "            <div class=\"recent-post-body\">",
      "                <h3><a href=\"/blog/\x7b\x7bslug\x7d\x7d\">\x7b\x7btitle\x7d\x7d</a></h3>",
      "                \x7b\x7b#show_date\x7d\x7d<time " ++
        "class=\"recent-post-date\">\x7b\x7bformatted_date\x7d\x7d</time>\x7b\x7b/show_date\x7d\x7d",
      "                \x7b\x7b#show_author\x7d\x7d<span class=\"recent-post-author\">by " ++
        "\x7b\x7bauthor_name\x7d\x7d</span>\x7b\x7b/show_author\x7d\x7d",
      "                \x7b\x7b#show_excerpt\x7d\x7d\x7b\x7b#excerpt\x7d\x7d<p " ++
        "class=\"recent-post-excerpt\">\x7b\x7bexcerpt\x7d\x7d</p>\x7b\x7b/excerpt\x7d\x7d\x7b\x7b/show_excerpt\x7d\x7d",
      "            </div>",
      "        </article>",
      "        \x7b\x7b/posts\x7d\x7d",
      "    </div>",
      "</section>" ]

/-- The CSS of `recent-posts`. -/
def recentPostsCss : String :=
  textLines
    [ ".lcms-el-recent-posts .recent-posts-inner \x7b padding: 2rem 0; \x7d",
      ".lcms-el-recent-posts h2 \x7b text-align: center; margin-bottom: 2rem; font-size: " ++
        "1.75rem; \x7d",
      ".lcms-el-recent-posts .recent-posts-grid \x7b display: grid; gap: 1.5rem; \x7d",
      ".lcms-el-recent-posts .recent-posts-cols-1 \x7b grid-template-columns: 1fr; \x7d",
      ".lcms-el-recent-posts .recent-posts-cols-2 \x7b grid-template-columns: repeat(2, " ++
        "1fr); \x7d",
      ".lcms-el-recent-posts .recent-posts-cols-3 \x7b grid-template-columns: repeat(3, " ++
        "1fr); \x7d",
      ".lcms-el-recent-posts .recent-posts-cols-4 \x7b grid-template-columns: repeat(4, " ++
        "1fr); \x7d",
      "@media (max-width: 768px) \x7b .lcms-el-recent-posts .recent-posts-grid \x7b " ++
        "grid-template-columns: 1fr; \x7d \x7d",
      ".lcms-el-recent-posts .recent-post-card \x7b border: 1px solid var(--color-border, " ++
        "#e2e8f0); border-radius: 8px; overflow: hidden; \x7d",
      ".lcms-el-recent-posts .recent-post-image img \x7b width: 100%; height: 200px; " ++
        "object-fit: cover; display: block; \x7d",
      ".lcms-el-recent-posts .recent-post-body \x7b padding: 1rem 1.25rem; \x7d",
      ".lcms-el-recent-posts .recent-post-body h3 \x7b margin-bottom: 0.5rem; font-size: " ++
        "1.1rem; \x7d",
      ".lcms-el-recent-posts .recent-post-body h3 a \x7b color: var(--color-text, " ++
        "#1e293b); text-decoration: none; \x7d",
      ".lcms-el-recent-posts .recent-post-body h3 a:hover \x7b color: var(--color-primary, " ++
        "#2563eb); \x7d",
      ".lcms-el-recent-posts .recent-post-date,",
      ".lcms-el-recent-posts .recent-post-author \x7b font-size: 0.85rem; color: " ++
        "var(--color-text-muted, #64748b); \x7d",
      ".lcms-el-recent-posts .recent-post-author \x7b margin-left: 0.5rem; \x7d",
      ".lcms-el-recent-posts .recent-post-excerpt \x7b margin-top: 0.75rem; color: " ++
        "var(--color-text, #1e293b); line-height: 1.6; \x7d",
      ".lcms-el-recent-posts .no-posts \x7b text-align: center; color: " ++
        "var(--color-text-muted, #64748b); \x7d" ]

/-- Dynamic grid of recent blog posts. Configurable count, columns, and display options. -/
def recentPosts : Element where
  id := 8
  slug := "recent-posts"
  name := "Recent Posts"
  html := recentPostsHtml
  css := recentPostsCss
  slots :=
    [ { slot "heading" "Section Heading" "text" with
        default := .str "Recent Posts" },
      { slot "count" "Number of Posts" "select" with
        default := .str "6"
        options := ["3", "6", "9", "12"] },
      { slot "columns" "Grid Columns" "select" with
        default := .str "3"
        options := ["1", "2", "3", "4"] },
      { slot "show_image" "Show Featured Image" "boolean" with
        default := .bool true },
      { slot "show_excerpt" "Show Excerpt" "boolean" with
        default := .bool true },
      { slot "show_date" "Show Date" "boolean" with
        default := .bool true },
      { slot "show_author" "Show Author" "boolean" with
        default := .bool true } ]
  version := 1
  active := true
  category := "content"
  description :=
    "Dynamic grid of recent blog posts. Configurable count, columns, and display options."

/-- All of them, in the order of their numbers. -/
def elements : List Element :=
  [heroSection, textSection, featureGrid, ctaBanner,
    imageText, testimonialSection, faqSection, recentPosts]

/-- The catalogue of a new site. -/
def catalogue : Catalogue := .ofList elements

end Pagewright.Seed
