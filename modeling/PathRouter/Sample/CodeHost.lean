import PathRouter.Router.Registry

/-!
A table of routes shaped like those of a code-hosting service, with paths to try on it. Most of the
paths match a route, some of them one that a wildcard would match too.
-/

namespace PathRouter.Sample

/-- Gives each route its place in a table as its action. -/
def numbered (routes : List (String × String)) : List (String × String × Nat) :=
  routes.mapIdx fun i route => (route.1, route.2, i)

namespace CodeHost

/-- Names and patterns. -/
def routes : List (String × String) := [
  ("root", "/"),
  ("user", "/user"),
  ("user_repos", "/user/repos"),
  ("users", "/users"),
  ("user_by_name", "/users/\x7buser\x7d"),
  ("user_repos_by_name", "/users/\x7buser\x7d/repos"),
  ("user_followers", "/users/\x7buser\x7d/followers"),
  ("user_following", "/users/\x7buser\x7d/following"),
  ("user_follows", "/users/\x7buser\x7d/following/\x7btarget\x7d"),
  ("org", "/orgs/\x7borg\x7d"),
  ("org_repos", "/orgs/\x7borg\x7d/repos"),
  ("org_members", "/orgs/\x7borg\x7d/members"),
  ("org_member", "/orgs/\x7borg\x7d/members/\x7buser\x7d"),
  ("repo", "/repos/\x7bowner\x7d/\x7brepo\x7d"),
  ("repo_issues", "/repos/\x7bowner\x7d/\x7brepo\x7d/issues"),
  ("repo_issue", "/repos/\x7bowner\x7d/\x7brepo\x7d/issues/\x7bnumber\x7d"),
  ("repo_issue_comments", "/repos/\x7bowner\x7d/\x7brepo\x7d/issues/\x7bnumber\x7d/comments"),
  ("repo_pulls", "/repos/\x7bowner\x7d/\x7brepo\x7d/pulls"),
  ("repo_pull", "/repos/\x7bowner\x7d/\x7brepo\x7d/pulls/\x7bnumber\x7d"),
  ("repo_pull_files", "/repos/\x7bowner\x7d/\x7brepo\x7d/pulls/\x7bnumber\x7d/files"),
  ("repo_branches", "/repos/\x7bowner\x7d/\x7brepo\x7d/branches"),
  ("repo_branch", "/repos/\x7bowner\x7d/\x7brepo\x7d/branches/\x7bbranch\x7d"),
  ("repo_contents", "/repos/\x7bowner\x7d/\x7brepo\x7d/contents/\x7bpath...\x7d"),
  ("repo_readme", "/repos/\x7bowner\x7d/\x7brepo\x7d/readme"),
  ("repo_tags", "/repos/\x7bowner\x7d/\x7brepo\x7d/tags"),
  ("repo_releases", "/repos/\x7bowner\x7d/\x7brepo\x7d/releases"),
  ("repo_release_latest", "/repos/\x7bowner\x7d/\x7brepo\x7d/releases/latest"),
  ("repo_release", "/repos/\x7bowner\x7d/\x7brepo\x7d/releases/\x7bid\x7d"),
  ("gists", "/gists"),
  ("gists_public", "/gists/public"),
  ("gist", "/gists/\x7bid\x7d"),
  ("gist_star", "/gists/\x7bid\x7d/star"),
  ("search_repos", "/search/repositories"),
  ("search_code", "/search/code"),
  ("search_users", "/search/users"),
  ("static", "/static/\x7bpath...\x7d")
]

/-- Paths to try, most of which match a route. -/
def paths : List String := [
  "/",
  "/user/repos",
  "/users/octocat",
  "/users/octocat/following/hubot",
  "/orgs/rust-lang/members/alice",
  "/repos/tenvisio/waymark",
  "/repos/tenvisio/waymark/issues/42/comments",
  "/repos/tenvisio/waymark/releases/latest",
  "/repos/tenvisio/waymark/releases/17",
  "/repos/tenvisio/waymark/contents/crates/waymark-core/src/lib.rs",
  "/gists/public",
  "/gists/abc123/star",
  "/search/code",
  "/static/css/site.css",
  "/repos/tenvisio",
  "/nowhere/at/all"
]

def router : Except BuildError (Router Nat) := Router.ofList (numbered routes)

end CodeHost

end PathRouter.Sample
