/-!
# Properties of the characters in a label, as tables

Marks, directions and joining types of the Unicode Character Database, version 15, in the form that
`RunTable.ofLines` reads. A character that no domain name may hold belongs to the run around it.
-/

namespace ClipRelay.Url

/-- Kind `M` are the combining marks. -/
def markLines : List String := [
  "0L 300M 71L 112M 8L 106M 2dL 1M 1L 1M 2L 1M 2L 1M 9L 40M bL 30M 15L 10M 1L 65M 8L 1M 6L 2M",
  "2L 1M 4L 23M 1L 1eM 1dL 59M bL 3aM 9L 9M 1L 18M 4L 1M 9L 1M 3L 1M 7L 29M 5L 3aM 8L 2aM 3aL",
  "36M 3L 1M 12L 1M fL 2M 2L 1dM 4L 37M 1L 1M 10L 9M 9L 2M 4L 18M 7L 37M 20L 14M 2L 3M 1L bM 4L",
  "37M 1L 1M 12L 12M 4L 14M bL 37M 1L 1M 21L 3M 4L 1cM 1L 3bM 12L 7M fL 1aM 5L 37M 1L 1M 1aL aM",
  "4L 1bM 3L 38M 1L 1M 1eL 6M 4L dM 11L 37M 2L 1M 10L 9M 1L aM 4L 1bM 4L 45M 1cL cM 2L 3dM 1L",
  "2M bL 8M 8L 62M 1L 2M 9L bM 8L 48M 2L 1bM 1L 1M 1L 1M 1L 4M 2L 31M 14L 1M 2L 5M 31L 8M 1L",
  "64M 14L 17M 4L 4M 3L 1M 3L 2M 7L 3M 4L dM cL 1M 1L aM 4L 2bfM 3L 3b2M dL 13M 3L 1dM eL 12M",
  "eL 36M 1eL 9M 3L a5M 2L 22M 1L 76M 20L d7M 7L 37M 2bL 30M 1fL 31M 5L 2fM 11L 26M 9L cM 3L",
  "1eM dL 38M 16L 28M 17L 95M 3L 1M 15L 4M 1L 6M 1L 2M 3L c6M 41L 2cfM 34L bebM 4L 8cM 1L 60M",
  "20L 22aM 6L 69M 4L 75d2M 4L 1M aL 20M 2L 50M 2L 110M 1L 3M 1L 4M 1L 17M 5L 4M 4L 50M 2L 32M",
  "1aL 12M 12L dM 1L 26M 8L 19M 18L 21M 4L 2fM eL 24M 1L 43M 17L 3M 1L 8M 4L 2bM 3L 32M 1L 1M",
  "3L 2M 2L 5M 2L 1M 1L 29M 5L 5M cL e2M 8L 1M 4L 4f2eM 94L 26eM 25L 3b8M 83L 60M 1L 95M aL",
  "681M fL 28M 8L a5M 6L 239M cL 17bM 2L 50M 3L 46M bL 31M 4L 7aM 3L 35M fL 29M 1L 2M 2L aM 4L",
  "2dM bL 7M eL 30M 3L 24M fL fM 2L 2cM 1L cM 3L 30M eL 8M 4L 1M 2L 5cM cL 6M 1L 2M 3fL 5fM 11L",
  "10M 5L 36M 2L 1M 12L 7M 6L 5M 1eL b5M 12L 17M 1L 51M 14L ebM 12L 1bM 24L 30M 11L 6aM dL 65M",
  "13L fcM fL f5M fL 1M 1L 1M 2L 8dM 10L 3M 1cL 1M aL 28M 7L 1M 4L 8M 9L 1M bL 2eM 10L 195M 11L",
  "52M 6eL 31M 15L 1M 9L 3aM eL 15bM 4L 9M 2L 1M 1L 30M fL 14fdM 1L 6M 19L 3690M 5L 3bM 7L 418M",
  "1L 1M 42L 51M eL 4cabM 2L 1261M 50L 215M 5L 3M 16L 2M 7L 1eM 4L 94M 3L 7bbM 37L 4M 32L 8M 1L",
  "eM 1L 16M 465L 100M 100L 30M 7L 177M 12L 2cM 4L 1fcM 4L 3e0M 52L 22M 7L"]

/-- The directions: `L` left to right, `R` right to left, `E` European digits, `A` Arabic digits,
`N` neutral, `M` marks, `X` all others. -/
def directionLines : List String := [
  "0N 9X 5N eX 5N fE aN 27L 1aN 64L 18N 1L 1c1N 2L 7N eL 2N 1cL 1N 11M 71L 4N 2L 7fN 2L 8bM 8L",
  "ffN 7M 2dR 1M 1R 1M 2R 1M 2R 1M 9R 36N 2R 1N 2R 1N 1R 1N 2M bR 30M 15A aN 1A 2R 3M 1R 65M 8N",
  "1M 6R 2M 2N 1M 4R 2E aR 17M 1R 1eM 1dR 59M bR 3aM 9R 2N 4R 3M 1R 18M 4R 1M 9R 1M 3R 1M 7R",
  "29M 5R 3aM 8R 2aM 39L 37M 1L 1M 1L 4M 8L 4M 1L 3M fL 2M 2L 1dM 1L 3aM 1L 4M 6L 6M 1L 14M 4L",
  "cN 2L 7N 1L 2M 5L 39M 2L 3M 1bL 14M 2L 3M 1L bM 2L 39M 1L 4M 8L 4M 3L 12M 4L bN 8L 1M 8L 3aM",
  "1L 2M 1L 1M 6L 6M aL bM 4L 1cM 1L 3dM 1L cM 3L 23N dM 1L 3M 1L 37M 1L 1M 3L 5M 12L aM 4L 12N",
  "7L 2M 1L 3aM 1L fM 9L dM 4L 1aM 2L 39M 2L 4M 5L 7M 1L 14M 4L 1bM 1L 48M 5L 3M 6L 59M 1L 2M",
  "bN 1L 7M 8L 62M 1L 2M 9L bM 8L 48M 2L 1bM 1L 1M 1L 1M 1N 4L 33M eL 1M 5L 1M 2L 5M 31L 8M 1L",
  "66M 4L 1M 6L 1M 2L 2M 2L 19M 2L 4M 3L 10M 4L dM 1L 2M 2L 6M 1L fM 1L 2bfM 3L 30N 10L 60N 1L",
  "29aN 5L 72M 3L 1dM 2L 1eM eL 12M eL 37M 7L 8M 1L 2M bL 7N 1L 1M 3L 10N 20L 75M 2L 22M 1L 76M",
  "3L 4M 2L 9M 1L 6M 7N 6L 98N 22L 17M 2L 2M 3L 38M 1L 1M 9L 1M 1L 2M 8L 6M dL 30M 1fL 31M 4L",
  "30M 1L 1M 5L 1M 1L 5M 1L 28M 9L cM 2L 20M 4L 2M 2L 1M 3L 38M 1L 1M 2L 3M 1L 1M 3L 3aM 8L 2M",
  "5L 95M 3L 1M dL 1M 7L 4M 1L 6M 1L 3M 2L c6M 41L 20bN c4M 34N 4aL 3cN 1acL 45N 1aL 1N 91L 19N",
  "26cL 1N 153L 100N 296L 1N 99L b5N 7L 3M 4L 6N 7L 7fM 1L 60M 20N 205L 3N 19L 9M 4L 2N 1L 6N",
  "4L 2N 4L 58M 4L 3N 1L 5aN 1L c4N 24L 1bdcN 40L 5690N 40L 13dN 3L 5fM 4N 1M aN 3L 1dM 2L 50M",
  "2L eN 23L 65N 1L 79M 1L 3M 1L 4M 1L 19M 2L 1N 4M 4L 8N 8L 34N cL 44M aL 12M 12L dM 1L 26M 8L",
  "19M bL 2eM 3L 30M 1L 2M 4L 2M 2L 27M 1L 43M 6L 2M 2L 2M bL 3M 1L 8M 1L 2fM 1L 33M 1L 1M 3L",
  "2M 2L 5M 2L 1M 1L 2aM 2L 8M bL 69N 56L 25M 1L 2M 1L 4M 3L 4f2eM 94R 18cN 52R 3fN 51M 25N 2eR",
  "18dL 101N 1L 3eN 4dL 3N 40L 2dM 83L 60M 1E 1fL 76M aL 480R 11fN 1R e1M fR 28M 8R a5M 6R 4eN",
  "7R 1e4M cA 10R 120A 20R 2bM 2R 50M 3R 46M bR 31M 4R 7aL 1M 1L 36M fL bN 14L aM 1L 2M 2L aM",
  "3L 31M 4L 2M 2L 7M eL 30M 3L 24M 5L 1M 9L 3dM 1L cM 2L 34M 9L aM 4L 2M 1L 5fM 3L 2M 1L 1M 2L",
  "6M 1L 2M 3fL 5fM 1L 3M dL 10M 2L 39M 2L 3M 1L 25M 1aL b8M 8L 2M 3L 1M 1L 17M 1L 54M 6L 1M 1L",
  "4M 2L 1M 2L eeM 6L 4M 2L 1M 2L 1bM 24L 33M 8L 2M 1L 1M 2L 1fN 20L 2bM 1L 1M 1L 2M 6L 1M 1L",
  "65M 3L 2M 4L 1M 9L ffM 9L 1M 2L 100M 2L 1M 1L 4M 1L 90M 8L 4M 1L 20M 6L 2M 2L 28M 6L 2M 4L",
  "8M 9L 1M 6L 2M 3L 2eM dL 1M 2L 196M eL 54M 17L 1M 7L 1M 2L 1M 4bL 31M 15L 1M 9L 40M 3L 2M 1L",
  "1M 1L 15bM 2L bM 2L 34M 8L 2M 1L 1M 1L 92N 2aL 1441M 1L 6M 19L 3690M 5L 3bM 7L 418M 1L 3fM",
  "4L 4fN 1L 1M cL 4cadM 2L 1261M 50L 217M 3L 11M 8L 2M 7L 1eM 4L 3bN 59M 3N 7bL 40N 60L 6a0M",
  "37L 4M 32L 8M 1L eM 1L 16M 465L 100M 100L 30M 7L 177M 12L 2cM 4L fN 1d1L 1cM 4L 310R d0M 52R",
  "22M 7R 5a5N 260L 1dN 3L 3dN 39L 7aN 478L 4N 9bL 4N 137L 4eN 154L cN 29L 7N 2eL 1N 7L 8N eL",
  "4N 9L 7N dbL"]

/-- The joining types: `L`, `R` and `D` join on the left, on the right and on both sides, `T` is
transparent, `U` does not join. -/
def joiningLines : List String := [
  "0U 300T 71U 112T 8U 106T 2dU 1T 1U 1T 2U 1T 2U 1T 9U 40T bU 5D 1U 1R 4D 1R 1D 1R 1D 5R 4D dU",
  "1D 7R 1D 2T 15U eD 2T 1R 3U 5D fR 12D 26R 1D 2R 9D 1R 1D 1R 1D 2R 2U 1R 1T 8U 1T 6U 2T 2U 1T",
  "4R 2U aD 3U 2D 1U 10R 1T 1D 3R 5D 4R 1D 9R 1D 1R 1D 1R 1D 2R 1T 1dR 1D bR 3D fR 2D 4R 1D 1R",
  "2D 3R 2D 6U 26T bU 19D 21T 9U 9T 1U 18T 4U 1T 9U 1T 3U 1T 7U 10R 1D 5R 2D 1R 1D aR 1D 1R 3T",
  "5U 2D 1U 1D 4U 1R 1D 1R 1aU 3D 1U 2D 5R 1D 8T 9D aR 3U 1R 1D 2R 2D 6R 1D fU 1T 39U 37T 1U 1T",
  "1U 4T 8U 4T 1U 3T fU 2T 2U 1dT 1U 3aT 1U 4T 6U 6T 1U 14T 4U 18T 5U 39T 2U 3T 1bU 14T 2U 3T",
  "1U bT 2U 39T 1U 4T 8U 4T 3U 12T 4U 14T 8U 3aT 1U 2T 1U 1T 6U 6T aU bT 4U 1cT 1U 3dT 1U cT 3U",
  "30T 1U 3T 1U 37T 1U 1T 3U 5T 12U aT 4U 1bT 1U 3aT 1U 2T 1U 6T 1U 5T 9U dT 4U 1aT 2U 39T 2U",
  "4T 5U 7T 1U 14T 4U 1bT 1U 48T 5U 3T 6U 59T 1U 2T bU 8T 8U 62T 1U 2T 9U bT 8U 48T 2U 1bT 1U",
  "1T 1U 1T 1U 37T eU 1T 5U 1T 2U 5T 31U 8T 1U 66T 4U 1T 6U 1T 2U 2T 2U 19T 2U 4T 3U 10T 4U dT",
  "1U 2T 2U 6T 1U fT 1U 2bfT 3U 3b2T 3U 1dT 2U 1eT eU 12T eU 37T 7U 8T 1U 2T bU 9T 3U 27D 1U",
  "18D 60U 5T 2D 22T 1D 6U 70T 3U 4T 2U 9T 1U 6T 7U d7T 2U 2T 3U 38T 1U 1T 9U 1T 1U 2T 8U 6T dU",
  "30T 54U 30T 1U 1T 5U 1T 1U 5T 1U 28T 9U cT 2U 20T 4U 2T 2U 1T 3U 38T 1U 1T 2U 3T 1U 1T 3U",
  "3aT 8U 2T 5U 95T 3U 1T dU 1T 7U 4T 1U 6T 1U 3T 2U c6T 41U 2cfT 34U bebT 4U 8cT 1U 60T 20U",
  "22aT 4U 6bT 4U 75d2T 4U 1T aU 20T 2U 50T 2U 110T 1U 3T 1U 4T 1U 19T 2U 5T 4U 10D 32L 1U 51T",
  "aU 12T 12U dT 1U 26T 8U 19T bU 2eT 3U 30T 1U 2T 4U 2T 2U 27T 1U 43T 6U 2T 2U 2T bU 3T 1U 8T",
  "1U 2fT 1U 33T 1U 1T 3U 2T 2U 5T 2U 1T 1U 2aT 2U 8T bU e4T 1U 2T 1U 4T 3U 4f2eT 94U 26eT 25U",
  "3b8T 83U 60T 1U 95T aU 681T fU 28T 8U 80D 5R 1U 1R 1U 1R 2U 2L 1R 5D 4L 1D 5R 1D 3R 1U 2R 1T",
  "6D 4R 1U 90D 1R 1D 1R 3D 3R 1D 2R 1D 1R 2D 1R 8U 10R 4D 2U 151L 1D 21R 1D 1T cU 39T 5U 13dT",
  "2U 15R 1D 2U 1D aU 2aT 6U 30D 3R 1D 11U 1T bD 3R 1U 1bD 4R 2D cT 4U 2aD 1U 1D 2R 3U 1D 1R 2D",
  "2R 1D 2U 1D 1R 2D 1U 4R 1D 1L 15U 21T 1U 36T fU 29T 1U 2T 2U aT 3U 31T 4U 2T 2U 7T eU 30T 3U",
  "24T 5U 1T 9U 3dT 1U cT 2U 34T 9U aT 4U 2T 1U 5fT 3U 2T 1U 1T 2U 6T 1U 2T 3fU 5fT 1U 3T dU",
  "10T 2U 39T 2U 3T 1U 25T 1aU 3bT 7U cT 1U 1T 1U 1T 1U eT 1fU 38T 8U 2T 3U 1T 1U 17T 1U 54T 6U",
  "1T 1U 4T 2U 1T 2U eeT 6U 4T 2U 1T 2U 1bT 24U 33T 8U 2T 1U 1T 2U 6aT 1U 1T 1U 2T 6U 1T 1U 65T",
  "1U 1T 1U 2T 4U 1T 9U ffT 9U 1T 2U 100T 2U 1T 1U 4T 1U 90T 8U 4T 1U 20T aU 28T 6U 2T 4U 8T 9U",
  "1T 6U 2T 3U 2eT dU 1T 2U c6T 1U 1T 3U 1T 1U c9T eU 1T 1U 52T 17U 1T 7U 1T 2U 1T 4bU 31T 15U",
  "1T 9U 40T 3U 2T 1U 1T 1U 15bT 2U bT 2U 34T 8U 2T 1U 1T 1U 17T 56U 1490T 1U 6T 19U 2cbeT cU",
  "3T 3U 9c0T 5U 3bT 7U 418T 1U 3fT 4U 51T cU 4cadT 2U 1261T 50U 217T 3U 11T 8U 2T 7U 1eT 4U",
  "94T 3U 7bbT 37U 4T 32U 8T 1U eT 1U 16T 465U 100T 100U 30T 7U 177T 12U 2cT 4U 1fcT 4U feT 2U",
  "f3T 1U 2T 1U 7T 2U 5T 9U 1d2T 52D 22T cU"]

end ClipRelay.Url
