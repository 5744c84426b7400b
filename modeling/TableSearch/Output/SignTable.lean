import TableSearch.Text.Basic

/-! # The table of named signs

The signs whose names are one word, with the codes of their characters.
-/

namespace TableSearch

namespace Sign

/-- The signs of one character. -/
def single : List (String × Nat) :=
  [("+1", 0x1F44D), ("100", 0x1F4AF), ("1234", 0x1F522), ("8ball", 0x1F3B1), ("a", 0x1F170),
    ("ab", 0x1F18E), ("abacus", 0x1F9EE), ("abc", 0x1F524), ("abcd", 0x1F521),
    ("accept", 0x1F251), ("adult", 0x1F9D1), ("airplane", 0x2708), ("alembic", 0x2697),
    ("alien", 0x1F47D), ("ambulance", 0x1F691), ("amphora", 0x1F3FA), ("anchor", 0x2693),
    ("angel", 0x1F47C), ("anger", 0x1F4A2), ("angry", 0x1F620), ("anguished", 0x1F627),
    ("ant", 0x1F41C), ("apple", 0x1F34E), ("aquarius", 0x2652), ("aries", 0x2648),
    ("art", 0x1F3A8), ("astonished", 0x1F632), ("atm", 0x1F3E7), ("automobile", 0x1F697),
    ("avocado", 0x1F951), ("axe", 0x1FA93), ("b", 0x1F171), ("baby", 0x1F476), ("back", 0x1F519),
    ("bacon", 0x1F953), ("badger", 0x1F9A1), ("badminton", 0x1F3F8), ("bagel", 0x1F96F),
    ("bald", 0x1F9B2), ("balloon", 0x1F388), ("bamboo", 0x1F38D), ("banana", 0x1F34C),
    ("bangbang", 0x203C), ("banjo", 0x1FA95), ("bank", 0x1F3E6), ("barber", 0x1F488),
    ("baseball", 0x26BE), ("basket", 0x1F9FA), ("basketball", 0x1F3C0), ("bat", 0x1F987),
    ("bath", 0x1F6C0), ("bathtub", 0x1F6C1), ("battery", 0x1F50B), ("bear", 0x1F43B),
    ("bed", 0x1F6CF), ("bee", 0x1F41D), ("beer", 0x1F37A), ("beers", 0x1F37B),
    ("beetle", 0x1F41E), ("beginner", 0x1F530), ("bell", 0x1F514), ("bento", 0x1F371),
    ("bicycle", 0x1F6B2), ("bicyclist", 0x1F6B4), ("bike", 0x1F6B2), ("bikini", 0x1F459),
    ("biohazard", 0x2623), ("bird", 0x1F426), ("birthday", 0x1F382), ("blossom", 0x1F33C),
    ("blowfish", 0x1F421), ("blush", 0x1F60A), ("boar", 0x1F417), ("boat", 0x26F5),
    ("bomb", 0x1F4A3), ("bone", 0x1F9B4), ("book", 0x1F4D6), ("bookmark", 0x1F516),
    ("books", 0x1F4DA), ("boom", 0x1F4A5), ("boot", 0x1F462), ("bouquet", 0x1F490),
    ("bow", 0x1F647), ("bowling", 0x1F3B3), ("boy", 0x1F466), ("brain", 0x1F9E0),
    ("bread", 0x1F35E), ("brick", 0x1F9F1), ("briefcase", 0x1F4BC), ("briefs", 0x1FA72),
    ("broccoli", 0x1F966), ("broom", 0x1F9F9), ("bug", 0x1F41B), ("bulb", 0x1F4A1),
    ("burrito", 0x1F32F), ("bus", 0x1F68C), ("busstop", 0x1F68F), ("butter", 0x1F9C8),
    ("butterfly", 0x1F98B), ("cactus", 0x1F335), ("cake", 0x1F370), ("calendar", 0x1F4C6),
    ("calling", 0x1F4F2), ("camel", 0x1F42B), ("camera", 0x1F4F7), ("camping", 0x1F3D5),
    ("cancer", 0x264B), ("candle", 0x1F56F), ("candy", 0x1F36C), ("canoe", 0x1F6F6),
    ("capricorn", 0x2651), ("car", 0x1F697), ("carrot", 0x1F955), ("castle", 0x1F3F0),
    ("cat", 0x1F431), ("cat2", 0x1F408), ("cd", 0x1F4BF), ("chains", 0x26D3), ("chair", 0x1FA91),
    ("chart", 0x1F4B9), ("cherries", 0x1F352), ("chestnut", 0x1F330), ("chicken", 0x1F414),
    ("child", 0x1F9D2), ("chipmunk", 0x1F43F), ("chopsticks", 0x1F962), ("church", 0x26EA),
    ("cigarette", 0x1F6AC), ("cinema", 0x1F3A6), ("cityscape", 0x1F3D9), ("cl", 0x1F191),
    ("clamp", 0x1F5DC), ("clap", 0x1F44F), ("clapper", 0x1F3AC), ("clipboard", 0x1F4CB),
    ("clock1", 0x1F550), ("clock10", 0x1F559), ("clock1030", 0x1F565), ("clock11", 0x1F55A),
    ("clock1130", 0x1F566), ("clock12", 0x1F55B), ("clock1230", 0x1F567), ("clock130", 0x1F55C),
    ("clock2", 0x1F551), ("clock230", 0x1F55D), ("clock3", 0x1F552), ("clock330", 0x1F55E),
    ("clock4", 0x1F553), ("clock430", 0x1F55F), ("clock5", 0x1F554), ("clock530", 0x1F560),
    ("clock6", 0x1F555), ("clock630", 0x1F561), ("clock7", 0x1F556), ("clock730", 0x1F562),
    ("clock8", 0x1F557), ("clock830", 0x1F563), ("clock9", 0x1F558), ("clock930", 0x1F564),
    ("cloud", 0x2601), ("clubs", 0x2663), ("coat", 0x1F9E5), ("cocktail", 0x1F378),
    ("coconut", 0x1F965), ("coffee", 0x2615), ("coffin", 0x26B0), ("collision", 0x1F4A5),
    ("comet", 0x2604), ("compass", 0x1F9ED), ("compression", 0x1F5DC), ("computer", 0x1F4BB),
    ("confounded", 0x1F616), ("confused", 0x1F615), ("congratulations", 0x3297),
    ("construction", 0x1F6A7), ("cookie", 0x1F36A), ("cooking", 0x1F373), ("cool", 0x1F192),
    ("cop", 0x1F46E), ("copyright", 0xA9), ("corn", 0x1F33D), ("couple", 0x1F46B),
    ("couplekiss", 0x1F48F), ("cow", 0x1F42E), ("cow2", 0x1F404), ("crab", 0x1F980),
    ("crayon", 0x1F58D), ("cricket", 0x1F997), ("crocodile", 0x1F40A), ("croissant", 0x1F950),
    ("crown", 0x1F451), ("cry", 0x1F622), ("cucumber", 0x1F952), ("cupcake", 0x1F9C1),
    ("cupid", 0x1F498), ("curry", 0x1F35B), ("custard", 0x1F36E), ("customs", 0x1F6C3),
    ("cyclone", 0x1F300), ("dagger", 0x1F5E1), ("dancer", 0x1F483), ("dancers", 0x1F46F),
    ("dango", 0x1F361), ("dart", 0x1F3AF), ("dash", 0x1F4A8), ("date", 0x1F4C5),
    ("deer", 0x1F98C), ("desert", 0x1F3DC), ("detective", 0x1F575), ("diamonds", 0x2666),
    ("disappointed", 0x1F61E), ("dizzy", 0x1F4AB), ("dna", 0x1F9EC), ("dog", 0x1F436),
    ("dog2", 0x1F415), ("dollar", 0x1F4B5), ("dolls", 0x1F38E), ("dolphin", 0x1F42C),
    ("door", 0x1F6AA), ("doughnut", 0x1F369), ("dove", 0x1F54A), ("dragon", 0x1F409),
    ("dress", 0x1F457), ("droplet", 0x1F4A7), ("drum", 0x1F941), ("duck", 0x1F986),
    ("dumpling", 0x1F95F), ("dvd", 0x1F4C0), ("eagle", 0x1F985), ("ear", 0x1F442),
    ("egg", 0x1F373), ("eggplant", 0x1F346), ("elephant", 0x1F418), ("elf", 0x1F9DD),
    ("email", 0x2709), ("end", 0x1F51A), ("envelope", 0x2709), ("euro", 0x1F4B6),
    ("ewe", 0x1F411), ("exclamation", 0x2757), ("expressionless", 0x1F611), ("eye", 0x1F441),
    ("eyeglasses", 0x1F453), ("eyes", 0x1F440), ("facepunch", 0x1F44A), ("factory", 0x1F3ED),
    ("fairy", 0x1F9DA), ("falafel", 0x1F9C6), ("family", 0x1F46A), ("fax", 0x1F4E0),
    ("fearful", 0x1F628), ("feet", 0x1F43E), ("ferry", 0x26F4), ("fire", 0x1F525),
    ("firecracker", 0x1F9E8), ("fireworks", 0x1F386), ("fish", 0x1F41F), ("fist", 0x270A),
    ("flags", 0x1F38F), ("flamingo", 0x1F9A9), ("flashlight", 0x1F526), ("flipper", 0x1F42C),
    ("flushed", 0x1F633), ("fog", 0x1F32B), ("foggy", 0x1F301), ("foot", 0x1F9B6),
    ("football", 0x1F3C8), ("footprints", 0x1F463), ("fountain", 0x26F2), ("free", 0x1F193),
    ("fries", 0x1F35F), ("frog", 0x1F438), ("frowning", 0x1F626), ("fuelpump", 0x26FD),
    ("garlic", 0x1F9C4), ("gear", 0x2699), ("gem", 0x1F48E), ("gemini", 0x264A),
    ("genie", 0x1F9DE), ("ghost", 0x1F47B), ("gift", 0x1F381), ("giraffe", 0x1F992),
    ("girl", 0x1F467), ("glasses", 0x1F453), ("gloves", 0x1F9E4), ("goat", 0x1F410),
    ("goblin", 0x1F47A), ("goggles", 0x1F97D), ("golf", 0x26F3), ("golfer", 0x1F3CC),
    ("gorilla", 0x1F98D), ("grapes", 0x1F347), ("grimacing", 0x1F62C), ("grin", 0x1F601),
    ("grinning", 0x1F600), ("guard", 0x1F482), ("guardsman", 0x1F482), ("guitar", 0x1F3B8),
    ("gun", 0x1F52B), ("haircut", 0x1F487), ("hamburger", 0x1F354), ("hammer", 0x1F528),
    ("hamster", 0x1F439), ("hand", 0x270B), ("handbag", 0x1F45C), ("handshake", 0x1F91D),
    ("hankey", 0x1F4A9), ("headphone", 0x1F3A7), ("headphones", 0x1F3A7), ("heart", 0x2764),
    ("heartbeat", 0x1F493), ("heartpulse", 0x1F497), ("hearts", 0x2665), ("hedgehog", 0x1F994),
    ("helicopter", 0x1F681), ("herb", 0x1F33F), ("hibiscus", 0x1F33A), ("hippopotamus", 0x1F99B),
    ("hocho", 0x1F52A), ("hole", 0x1F573), ("honeybee", 0x1F41D), ("horse", 0x1F434),
    ("hospital", 0x1F3E5), ("hotel", 0x1F3E8), ("hotsprings", 0x2668), ("hourglass", 0x231B),
    ("house", 0x1F3E0), ("houses", 0x1F3D8), ("hushed", 0x1F62F), ("ice", 0x1F9CA),
    ("icecream", 0x1F366), ("id", 0x1F194), ("imp", 0x1F47F), ("infinity", 0x267E),
    ("information", 0x2139), ("innocent", 0x1F607), ("interrobang", 0x2049), ("iphone", 0x1F4F1),
    ("japan", 0x1F5FE), ("jeans", 0x1F456), ("jigsaw", 0x1F9E9), ("joker", 0x1F0CF),
    ("joy", 0x1F602), ("joystick", 0x1F579), ("kaaba", 0x1F54B), ("kangaroo", 0x1F998),
    ("key", 0x1F511), ("keyboard", 0x2328), ("kimono", 0x1F458), ("kiss", 0x1F48B),
    ("kissing", 0x1F617), ("kite", 0x1FA81), ("knife", 0x1F52A), ("koala", 0x1F428),
    ("koko", 0x1F201), ("label", 0x1F3F7), ("lacrosse", 0x1F94D), ("lantern", 0x1F3EE),
    ("laughing", 0x1F606), ("leaves", 0x1F343), ("ledger", 0x1F4D2), ("leg", 0x1F9B5),
    ("lemon", 0x1F34B), ("leo", 0x264C), ("leopard", 0x1F406), ("libra", 0x264E),
    ("link", 0x1F517), ("lips", 0x1F444), ("lipstick", 0x1F484), ("lizard", 0x1F98E),
    ("llama", 0x1F999), ("lobster", 0x1F99E), ("lock", 0x1F512), ("locked", 0x1F512),
    ("locomotive", 0x1F682), ("lollipop", 0x1F36D), ("loop", 0x27BF), ("loudspeaker", 0x1F4E2),
    ("luggage", 0x1F9F3), ("m", 0x24C2), ("mag", 0x1F50D), ("mage", 0x1F9D9), ("magnet", 0x1F9F2),
    ("mahjong", 0x1F004), ("mailbox", 0x1F4EB), ("man", 0x1F468), ("mango", 0x1F96D),
    ("mask", 0x1F637), ("massage", 0x1F486), ("mate", 0x1F9C9), ("mega", 0x1F4E3),
    ("megaphone", 0x1F4E3), ("melon", 0x1F348), ("memo", 0x1F4DD), ("menorah", 0x1F54E),
    ("mens", 0x1F6B9), ("merperson", 0x1F9DC), ("metro", 0x1F687), ("microbe", 0x1F9A0),
    ("microphone", 0x1F3A4), ("microscope", 0x1F52C), ("minibus", 0x1F690), ("minidisc", 0x1F4BD),
    ("moai", 0x1F5FF), ("moneybag", 0x1F4B0), ("monkey", 0x1F412), ("monorail", 0x1F69D),
    ("moon", 0x1F314), ("mosque", 0x1F54C), ("mosquito", 0x1F99F), ("motorcycle", 0x1F3CD),
    ("motorway", 0x1F6E3), ("mountain", 0x26F0), ("mouse", 0x1F42D), ("mouse2", 0x1F401),
    ("mouth", 0x1F444), ("moyai", 0x1F5FF), ("muscle", 0x1F4AA), ("mushroom", 0x1F344),
    ("mute", 0x1F507), ("necktie", 0x1F454), ("new", 0x1F195), ("newspaper", 0x1F4F0),
    ("ng", 0x1F196), ("nose", 0x1F443), ("notebook", 0x1F4D3), ("notes", 0x1F3B6), ("o", 0x2B55),
    ("o2", 0x1F17E), ("ocean", 0x1F30A), ("octopus", 0x1F419), ("oden", 0x1F362),
    ("office", 0x1F3E2), ("ogre", 0x1F479), ("ok", 0x1F197), ("om", 0x1F549), ("on", 0x1F51B),
    ("onion", 0x1F9C5), ("ophiuchus", 0x26CE), ("orangutan", 0x1F9A7), ("otter", 0x1F9A6),
    ("owl", 0x1F989), ("ox", 0x1F402), ("oyster", 0x1F9AA), ("package", 0x1F4E6),
    ("pager", 0x1F4DF), ("paintbrush", 0x1F58C), ("pancakes", 0x1F95E), ("paperclip", 0x1F4CE),
    ("parking", 0x1F17F), ("parrot", 0x1F99C), ("peach", 0x1F351), ("peacock", 0x1F99A),
    ("peanuts", 0x1F95C), ("pear", 0x1F350), ("pen", 0x1F58A), ("pencil", 0x1F4DD),
    ("pencil2", 0x270F), ("penguin", 0x1F427), ("pensive", 0x1F614), ("persevere", 0x1F623),
    ("phone", 0x260E), ("pick", 0x26CF), ("pie", 0x1F967), ("pig", 0x1F437), ("pig2", 0x1F416),
    ("pill", 0x1F48A), ("pineapple", 0x1F34D), ("pisces", 0x2653), ("pistol", 0x1F52B),
    ("pizza", 0x1F355), ("poodle", 0x1F429), ("poop", 0x1F4A9), ("popcorn", 0x1F37F),
    ("postbox", 0x1F4EE), ("potato", 0x1F954), ("pouch", 0x1F45D), ("pound", 0x1F4B7),
    ("pray", 0x1F64F), ("pretzel", 0x1F968), ("prince", 0x1F934), ("princess", 0x1F478),
    ("printer", 0x1F5A8), ("prohibited", 0x1F6AB), ("punch", 0x1F44A), ("purse", 0x1F45B),
    ("pushpin", 0x1F4CC), ("question", 0x2753), ("rabbit", 0x1F430), ("rabbit2", 0x1F407),
    ("raccoon", 0x1F99D), ("racehorse", 0x1F40E), ("radio", 0x1F4FB), ("radioactive", 0x2622),
    ("rage", 0x1F621), ("rainbow", 0x1F308), ("ram", 0x1F40F), ("ramen", 0x1F35C),
    ("rat", 0x1F400), ("razor", 0x1FA92), ("receipt", 0x1F9FE), ("recycle", 0x267B),
    ("registered", 0xAE), ("relaxed", 0x263A), ("relieved", 0x1F60C), ("repeat", 0x1F501),
    ("restroom", 0x1F6BB), ("rewind", 0x23EA), ("rhinoceros", 0x1F98F), ("ribbon", 0x1F380),
    ("rice", 0x1F35A), ("ring", 0x1F48D), ("robot", 0x1F916), ("rocket", 0x1F680),
    ("rooster", 0x1F413), ("rose", 0x1F339), ("rosette", 0x1F3F5), ("rowboat", 0x1F6A3),
    ("runner", 0x1F3C3), ("running", 0x1F3C3), ("sa", 0x1F202), ("sagittarius", 0x2650),
    ("sailboat", 0x26F5), ("sake", 0x1F376), ("salt", 0x1F9C2), ("sandal", 0x1F461),
    ("sandwich", 0x1F96A), ("santa", 0x1F385), ("sari", 0x1F97B), ("satellite", 0x1F4E1),
    ("satisfied", 0x1F606), ("sauropod", 0x1F995), ("saxophone", 0x1F3B7), ("scales", 0x2696),
    ("scarf", 0x1F9E3), ("school", 0x1F3EB), ("scissors", 0x2702), ("scorpio", 0x264F),
    ("scorpion", 0x1F982), ("scorpius", 0x264F), ("scream", 0x1F631), ("scroll", 0x1F4DC),
    ("seat", 0x1F4BA), ("secret", 0x3299), ("seedling", 0x1F331), ("selfie", 0x1F933),
    ("shamrock", 0x2618), ("shark", 0x1F988), ("sheep", 0x1F411), ("shell", 0x1F41A),
    ("shield", 0x1F6E1), ("ship", 0x1F6A2), ("shirt", 0x1F455), ("shit", 0x1F4A9),
    ("shoe", 0x1F45E), ("shortcake", 0x1F370), ("shorts", 0x1FA73), ("shower", 0x1F6BF),
    ("shrimp", 0x1F990), ("skateboard", 0x1F6F9), ("ski", 0x1F3BF), ("skier", 0x26F7),
    ("skis", 0x1F3BF), ("skull", 0x1F480), ("skunk", 0x1F9A8), ("sled", 0x1F6F7),
    ("sleeping", 0x1F634), ("sleepy", 0x1F62A), ("sloth", 0x1F9A5), ("smile", 0x1F604),
    ("smiley", 0x1F603), ("smirk", 0x1F60F), ("smoking", 0x1F6AC), ("snail", 0x1F40C),
    ("snake", 0x1F40D), ("snowboarder", 0x1F3C2), ("snowflake", 0x2744), ("snowman", 0x2603),
    ("soap", 0x1F9FC), ("sob", 0x1F62D), ("soccer", 0x26BD), ("socks", 0x1F9E6),
    ("softball", 0x1F94E), ("soon", 0x1F51C), ("sos", 0x1F198), ("sound", 0x1F509),
    ("spades", 0x2660), ("spaghetti", 0x1F35D), ("sparkle", 0x2747), ("sparkler", 0x1F387),
    ("sparkles", 0x2728), ("speaker", 0x1F508), ("speedboat", 0x1F6A4), ("spider", 0x1F577),
    ("sponge", 0x1F9FD), ("spoon", 0x1F944), ("squid", 0x1F991), ("stadium", 0x1F3DF),
    ("star", 0x2B50), ("star2", 0x1F31F), ("stars", 0x1F320), ("station", 0x1F689),
    ("stethoscope", 0x1FA7A), ("stew", 0x1F372), ("stopwatch", 0x23F1), ("strawberry", 0x1F353),
    ("sun", 0x2600), ("sunflower", 0x1F33B), ("sunglasses", 0x1F60E), ("sunny", 0x2600),
    ("sunrise", 0x1F305), ("sunset", 0x1F307), ("superhero", 0x1F9B8), ("supervillain", 0x1F9B9),
    ("surfer", 0x1F3C4), ("sushi", 0x1F363), ("swan", 0x1F9A2), ("sweat", 0x1F613),
    ("swimmer", 0x1F3CA), ("symbols", 0x1F523), ("synagogue", 0x1F54D), ("syringe", 0x1F489),
    ("taco", 0x1F32E), ("tada", 0x1F389), ("tangerine", 0x1F34A), ("taurus", 0x2649),
    ("taxi", 0x1F695), ("tea", 0x1F375), ("telephone", 0x260E), ("telescope", 0x1F52D),
    ("television", 0x1F4FA), ("ten", 0x1F51F), ("tennis", 0x1F3BE), ("tent", 0x26FA),
    ("thermometer", 0x1F321), ("thread", 0x1F9F5), ("thumbsdown", 0x1F44E), ("thumbsup", 0x1F44D),
    ("ticket", 0x1F3AB), ("tiger", 0x1F42F), ("tiger2", 0x1F405), ("tm", 0x2122),
    ("toilet", 0x1F6BD), ("tomato", 0x1F345), ("tongue", 0x1F445), ("toolbox", 0x1F9F0),
    ("tooth", 0x1F9B7), ("top", 0x1F51D), ("tophat", 0x1F3A9), ("tornado", 0x1F32A),
    ("trackball", 0x1F5B2), ("tractor", 0x1F69C), ("train", 0x1F68B), ("train2", 0x1F686),
    ("tram", 0x1F68A), ("trident", 0x1F531), ("triumph", 0x1F624), ("trolleybus", 0x1F68E),
    ("trophy", 0x1F3C6), ("truck", 0x1F69A), ("trumpet", 0x1F3BA), ("tshirt", 0x1F455),
    ("tulip", 0x1F337), ("turkey", 0x1F983), ("turtle", 0x1F422), ("tv", 0x1F4FA),
    ("u5272", 0x1F239), ("u5408", 0x1F234), ("u55b6", 0x1F23A), ("u6307", 0x1F22F),
    ("u6708", 0x1F237), ("u6709", 0x1F236), ("u6e80", 0x1F235), ("u7121", 0x1F21A),
    ("u7533", 0x1F238), ("u7981", 0x1F232), ("u7a7a", 0x1F233), ("umbrella", 0x2602),
    ("unamused", 0x1F612), ("underage", 0x1F51E), ("unlock", 0x1F513), ("unlocked", 0x1F513),
    ("up", 0x1F199), ("v", 0x270C), ("vampire", 0x1F9DB), ("vhs", 0x1F4FC),
    ("videocassette", 0x1F4FC), ("violin", 0x1F3BB), ("virgo", 0x264D), ("volcano", 0x1F30B),
    ("volleyball", 0x1F3D0), ("vs", 0x1F19A), ("waffle", 0x1F9C7), ("walking", 0x1F6B6),
    ("warning", 0x26A0), ("wastebasket", 0x1F5D1), ("watch", 0x231A), ("watermelon", 0x1F349),
    ("wave", 0x1F44B), ("wc", 0x1F6BE), ("weary", 0x1F629), ("wedding", 0x1F492),
    ("whale", 0x1F433), ("whale2", 0x1F40B), ("wheelchair", 0x267F), ("wink", 0x1F609),
    ("wolf", 0x1F43A), ("woman", 0x1F469), ("womens", 0x1F6BA), ("worried", 0x1F61F),
    ("wrench", 0x1F527), ("x", 0x274C), ("yarn", 0x1F9F6), ("yen", 0x1F4B4), ("yum", 0x1F60B),
    ("zap", 0x26A1), ("zebra", 0x1F993), ("zombie", 0x1F9DF), ("zzz", 0x1F4A4), ("-1", 0x1F44E)]

/-- The signs of several characters. -/
def several : List (String × List Nat) :=
  [("afghanistan", [0x1F1E6, 0x1F1EB]), ("albania", [0x1F1E6, 0x1F1F1]),
    ("algeria", [0x1F1E9, 0x1F1FF]), ("andorra", [0x1F1E6, 0x1F1E9]),
    ("angola", [0x1F1E6, 0x1F1F4]), ("anguilla", [0x1F1E6, 0x1F1EE]),
    ("antarctica", [0x1F1E6, 0x1F1F6]), ("argentina", [0x1F1E6, 0x1F1F7]),
    ("armenia", [0x1F1E6, 0x1F1F2]), ("aruba", [0x1F1E6, 0x1F1FC]),
    ("australia", [0x1F1E6, 0x1F1FA]), ("austria", [0x1F1E6, 0x1F1F9]),
    ("azerbaijan", [0x1F1E6, 0x1F1FF]), ("bahamas", [0x1F1E7, 0x1F1F8]),
    ("bahrain", [0x1F1E7, 0x1F1ED]), ("bangladesh", [0x1F1E7, 0x1F1E9]),
    ("barbados", [0x1F1E7, 0x1F1E7]), ("belarus", [0x1F1E7, 0x1F1FE]),
    ("belgium", [0x1F1E7, 0x1F1EA]), ("belize", [0x1F1E7, 0x1F1FF]),
    ("benin", [0x1F1E7, 0x1F1EF]), ("bermuda", [0x1F1E7, 0x1F1F2]),
    ("bhutan", [0x1F1E7, 0x1F1F9]), ("bolivia", [0x1F1E7, 0x1F1F4]),
    ("botswana", [0x1F1E7, 0x1F1FC]), ("brazil", [0x1F1E7, 0x1F1F7]),
    ("brunei", [0x1F1E7, 0x1F1F3]), ("bulgaria", [0x1F1E7, 0x1F1EC]),
    ("burundi", [0x1F1E7, 0x1F1EE]), ("cambodia", [0x1F1F0, 0x1F1ED]),
    ("cameroon", [0x1F1E8, 0x1F1F2]), ("canada", [0x1F1E8, 0x1F1E6]),
    ("chad", [0x1F1F9, 0x1F1E9]), ("chile", [0x1F1E8, 0x1F1F1]), ("china", [0x1F1E8, 0x1F1F3]),
    ("colombia", [0x1F1E8, 0x1F1F4]), ("comoros", [0x1F1F0, 0x1F1F2]),
    ("croatia", [0x1F1ED, 0x1F1F7]), ("cuba", [0x1F1E8, 0x1F1FA]), ("cyprus", [0x1F1E8, 0x1F1FE]),
    ("czechia", [0x1F1E8, 0x1F1FF]), ("denmark", [0x1F1E9, 0x1F1F0]),
    ("djibouti", [0x1F1E9, 0x1F1EF]), ("dominica", [0x1F1E9, 0x1F1F2]),
    ("ecuador", [0x1F1EA, 0x1F1E8]), ("egypt", [0x1F1EA, 0x1F1EC]),
    ("eight", [0x38, 0xFE0F, 0x20E3]),
    ("england", [0x1F3F4, 0xE0067, 0xE0062, 0xE0065, 0xE006E, 0xE0067, 0xE007F]),
    ("eritrea", [0x1F1EA, 0x1F1F7]), ("estonia", [0x1F1EA, 0x1F1EA]),
    ("ethiopia", [0x1F1EA, 0x1F1F9]), ("fiji", [0x1F1EB, 0x1F1EF]),
    ("finland", [0x1F1EB, 0x1F1EE]), ("five", [0x35, 0xFE0F, 0x20E3]),
    ("four", [0x34, 0xFE0F, 0x20E3]), ("france", [0x1F1EB, 0x1F1F7]),
    ("gabon", [0x1F1EC, 0x1F1E6]), ("gambia", [0x1F1EC, 0x1F1F2]),
    ("georgia", [0x1F1EC, 0x1F1EA]), ("germany", [0x1F1E9, 0x1F1EA]),
    ("ghana", [0x1F1EC, 0x1F1ED]), ("gibraltar", [0x1F1EC, 0x1F1EE]),
    ("greece", [0x1F1EC, 0x1F1F7]), ("greenland", [0x1F1EC, 0x1F1F1]),
    ("grenada", [0x1F1EC, 0x1F1E9]), ("guadeloupe", [0x1F1EC, 0x1F1F5]),
    ("guam", [0x1F1EC, 0x1F1FA]), ("guatemala", [0x1F1EC, 0x1F1F9]),
    ("guernsey", [0x1F1EC, 0x1F1EC]), ("guinea", [0x1F1EC, 0x1F1F3]),
    ("guyana", [0x1F1EC, 0x1F1FE]), ("haiti", [0x1F1ED, 0x1F1F9]),
    ("honduras", [0x1F1ED, 0x1F1F3]), ("hungary", [0x1F1ED, 0x1F1FA]),
    ("iceland", [0x1F1EE, 0x1F1F8]), ("india", [0x1F1EE, 0x1F1F3]),
    ("indonesia", [0x1F1EE, 0x1F1E9]), ("iran", [0x1F1EE, 0x1F1F7]), ("iraq", [0x1F1EE, 0x1F1F6]),
    ("ireland", [0x1F1EE, 0x1F1EA]), ("israel", [0x1F1EE, 0x1F1F1]),
    ("italy", [0x1F1EE, 0x1F1F9]), ("jamaica", [0x1F1EF, 0x1F1F2]),
    ("jersey", [0x1F1EF, 0x1F1EA]), ("jordan", [0x1F1EF, 0x1F1F4]),
    ("kazakhstan", [0x1F1F0, 0x1F1FF]), ("kenya", [0x1F1F0, 0x1F1EA]),
    ("kiribati", [0x1F1F0, 0x1F1EE]), ("kosovo", [0x1F1FD, 0x1F1F0]),
    ("kuwait", [0x1F1F0, 0x1F1FC]), ("kyrgyzstan", [0x1F1F0, 0x1F1EC]),
    ("laos", [0x1F1F1, 0x1F1E6]), ("latvia", [0x1F1F1, 0x1F1FB]), ("lebanon", [0x1F1F1, 0x1F1E7]),
    ("lesotho", [0x1F1F1, 0x1F1F8]), ("liberia", [0x1F1F1, 0x1F1F7]),
    ("libya", [0x1F1F1, 0x1F1FE]), ("liechtenstein", [0x1F1F1, 0x1F1EE]),
    ("lithuania", [0x1F1F1, 0x1F1F9]), ("luxembourg", [0x1F1F1, 0x1F1FA]),
    ("macedonia", [0x1F1F2, 0x1F1F0]), ("madagascar", [0x1F1F2, 0x1F1EC]),
    ("malawi", [0x1F1F2, 0x1F1FC]), ("malaysia", [0x1F1F2, 0x1F1FE]),
    ("maldives", [0x1F1F2, 0x1F1FB]), ("mali", [0x1F1F2, 0x1F1F1]), ("malta", [0x1F1F2, 0x1F1F9]),
    ("martinique", [0x1F1F2, 0x1F1F6]), ("mauritania", [0x1F1F2, 0x1F1F7]),
    ("mauritius", [0x1F1F2, 0x1F1FA]), ("mayotte", [0x1F1FE, 0x1F1F9]),
    ("mermaid", [0x1F9DC, 0x200D, 0x2640, 0xFE0F]), ("merman", [0x1F9DC, 0x200D, 0x2642, 0xFE0F]),
    ("mexico", [0x1F1F2, 0x1F1FD]), ("micronesia", [0x1F1EB, 0x1F1F2]),
    ("moldova", [0x1F1F2, 0x1F1E9]), ("monaco", [0x1F1F2, 0x1F1E8]),
    ("mongolia", [0x1F1F2, 0x1F1F3]), ("montenegro", [0x1F1F2, 0x1F1EA]),
    ("montserrat", [0x1F1F2, 0x1F1F8]), ("morocco", [0x1F1F2, 0x1F1E6]),
    ("mozambique", [0x1F1F2, 0x1F1FF]), ("namibia", [0x1F1F3, 0x1F1E6]),
    ("nauru", [0x1F1F3, 0x1F1F7]), ("nepal", [0x1F1F3, 0x1F1F5]),
    ("netherlands", [0x1F1F3, 0x1F1F1]), ("nicaragua", [0x1F1F3, 0x1F1EE]),
    ("niger", [0x1F1F3, 0x1F1EA]), ("nigeria", [0x1F1F3, 0x1F1EC]),
    ("nine", [0x39, 0xFE0F, 0x20E3]), ("niue", [0x1F1F3, 0x1F1FA]),
    ("norway", [0x1F1F3, 0x1F1F4]), ("oman", [0x1F1F4, 0x1F1F2]), ("one", [0x31, 0xFE0F, 0x20E3]),
    ("pakistan", [0x1F1F5, 0x1F1F0]), ("palau", [0x1F1F5, 0x1F1FC]),
    ("panama", [0x1F1F5, 0x1F1E6]), ("paraguay", [0x1F1F5, 0x1F1FE]),
    ("peru", [0x1F1F5, 0x1F1EA]), ("philippines", [0x1F1F5, 0x1F1ED]),
    ("poland", [0x1F1F5, 0x1F1F1]), ("portugal", [0x1F1F5, 0x1F1F9]),
    ("qatar", [0x1F1F6, 0x1F1E6]), ("romania", [0x1F1F7, 0x1F1F4]),
    ("russia", [0x1F1F7, 0x1F1FA]), ("rwanda", [0x1F1F7, 0x1F1FC]), ("samoa", [0x1F1FC, 0x1F1F8]),
    ("scotland", [0x1F3F4, 0xE0067, 0xE0062, 0xE0073, 0xE0063, 0xE0074, 0xE007F]),
    ("senegal", [0x1F1F8, 0x1F1F3]), ("serbia", [0x1F1F7, 0x1F1F8]),
    ("seven", [0x37, 0xFE0F, 0x20E3]), ("seychelles", [0x1F1F8, 0x1F1E8]),
    ("singapore", [0x1F1F8, 0x1F1EC]), ("six", [0x36, 0xFE0F, 0x20E3]),
    ("slovakia", [0x1F1F8, 0x1F1F0]), ("slovenia", [0x1F1F8, 0x1F1EE]),
    ("somalia", [0x1F1F8, 0x1F1F4]), ("spain", [0x1F1EA, 0x1F1F8]), ("sudan", [0x1F1F8, 0x1F1E9]),
    ("suriname", [0x1F1F8, 0x1F1F7]), ("swaziland", [0x1F1F8, 0x1F1FF]),
    ("sweden", [0x1F1F8, 0x1F1EA]), ("switzerland", [0x1F1E8, 0x1F1ED]),
    ("syria", [0x1F1F8, 0x1F1FE]), ("taiwan", [0x1F1F9, 0x1F1FC]),
    ("tajikistan", [0x1F1F9, 0x1F1EF]), ("tanzania", [0x1F1F9, 0x1F1FF]),
    ("thailand", [0x1F1F9, 0x1F1ED]), ("three", [0x33, 0xFE0F, 0x20E3]),
    ("togo", [0x1F1F9, 0x1F1EC]), ("tokelau", [0x1F1F9, 0x1F1F0]), ("tonga", [0x1F1F9, 0x1F1F4]),
    ("tunisia", [0x1F1F9, 0x1F1F3]), ("turkmenistan", [0x1F1F9, 0x1F1F2]),
    ("tuvalu", [0x1F1F9, 0x1F1FB]), ("two", [0x32, 0xFE0F, 0x20E3]),
    ("uganda", [0x1F1FA, 0x1F1EC]), ("ukraine", [0x1F1FA, 0x1F1E6]),
    ("uruguay", [0x1F1FA, 0x1F1FE]), ("uzbekistan", [0x1F1FA, 0x1F1FF]),
    ("vanuatu", [0x1F1FB, 0x1F1FA]), ("venezuela", [0x1F1FB, 0x1F1EA]),
    ("vietnam", [0x1F1FB, 0x1F1F3]),
    ("wales", [0x1F3F4, 0xE0067, 0xE0062, 0xE0077, 0xE006C, 0xE0073, 0xE007F]),
    ("yemen", [0x1F1FE, 0x1F1EA]), ("zambia", [0x1F1FF, 0x1F1F2]),
    ("zero", [0x30, 0xFE0F, 0x20E3]), ("zimbabwe", [0x1F1FF, 0x1F1FC])]

end Sign

end TableSearch
